import Mathlib.Data.List.Nodup
import ProxyInjector.Log.Logger
import ProxyInjector.Proofs.Template.Pieces

/-!
# Log lines that can always be written

A template of log lines that is made of text and of conversions of the fields of a record writes
every record.

* `Record.fieldNames`       the names of the fields, the time included;
* `LineTemplate.Plain`      the template is in pieces, each field is one of a record, and only
                            fields that are integers are written as such;
* `Record.offered_view`     a record offers all that such a template asks for;
* `Record.render?_plain`    the line is the pieces filled in, and one more if there was trouble;
* `standard_plain`, `bare_plain`   the templates that are there without being asked for.
-/

namespace ProxyInjector

open Template (Field Piece Filling)

/-! ## which fields can be written -/

namespace Template

-- characters are checked by `all`, since there are too many of them for a quantifier
instance (digits : List Char) : Decidable (IsSize digits) :=
  decidable_of_iff (digits.all Char.isDigit = true ∧ number digits ≤ Conversion.maxSize)
    (and_congr_left' List.all_eq_true)

instance (f : Field) : Decidable f.Valid :=
  decidable_of_iff
    ((f.name.toList.all fun c => c != '(' && c != ')') = true ∧
      f.flags.all Conversion.isFlag = true ∧ IsSize f.width ∧ f.width.head? ≠ some '0' ∧
      (∀ digits ∈ f.precision.toList, IsSize digits) ∧
      (f.letter = 's' ∨ f.letter = 'd'))
    ⟨fun ⟨name, flags, width, start, precision, letter⟩ =>
        ⟨by simpa using name, List.all_eq_true.mp flags, width, start, by simpa using precision,
          letter⟩,
      fun h => ⟨by simpa using h.name, List.all_eq_true.mpr h.flags, h.width, h.start,
        by simpa using h.precision, h.letter⟩⟩

instance : (p : Piece) → Decidable p.Valid
  | .literal cs => inferInstanceAs (Decidable ('%' ∉ cs))
  | .percent => .isTrue trivial
  | .field f => inferInstanceAs (Decidable f.Valid)

end Template

namespace Log

namespace Record

/-- the fields of a record, the time last -/
def fieldNames : List String :=
  ["name", "msg", "args", "levelname", "levelno", "pathname", "filename", "module", "exc_info",
    "exc_text", "stack_info", "lineno", "funcName", "created", "msecs", "relativeCreated", "thread",
    "threadName", "processName", "process", "message", "asctime"]

/-- the fields that are integers in every record -/
def integerNames : List String := ["levelno", "lineno", "thread", "process"]

end Record

namespace LineTemplate

/-- a record has the field, as an integer if it is written as one -/
def Suits : Piece → Prop
  | .field f => f.name ∈ Record.fieldNames ∧ (f.letter = 'd' → f.name ∈ Record.integerNames)
  | _ => True

instance : (p : Piece) → Decidable (Suits p)
  | .literal _ | .percent => .isTrue trivial
  | .field _ => inferInstanceAs (Decidable (_ ∧ _))

/-- the template is made of the pieces -/
structure Spelled (t : String) (ps : List Piece) : Prop where
  valid : ∀ p ∈ ps, p.Valid
  suits : ∀ p ∈ ps, Suits p
  chars : t.toList = ps.flatMap Piece.chars

def Plain (t : String) : Prop := ∃ ps, Spelled t ps

end LineTemplate

/-! ## what a record offers -/

namespace Record

theorem map_fields (stamp : Stamp) (r : Record) :
    (r.fields stamp ++ [timeField stamp]).map (·.1) = fieldNames := rfl

theorem isTimed_append {b : List Char} (h : isTimed b = true) (a : List Char) :
    isTimed (a ++ b) = true := by
  induction a with
  | nil => exact h
  | cons c a ih => rw [List.cons_append, isTimed, ih, Bool.or_true]

theorem isTimed_field {f : Field} (h : f.name = "asctime") {ps : List Piece} (hf : .field f ∈ ps) :
    isTimed (ps.flatMap Piece.chars) = true := by
  obtain ⟨before, behind, rfl⟩ := List.append_of_mem hf
  rw [List.flatMap_append, List.flatMap_cons]
  refine isTimed_append ?_ _
  show isTimed ('%' :: '(' :: (f.name.toList ++ ')' :: f.ending) ++ _) = true
  rw [h]
  rfl

theorem nodup_fieldNames : fieldNames.Nodup := by decide +kernel

/-- no two fields have one name, so that every field is found under its own -/
theorem find?_of_mem {fields : List (String × Filling)} (hn : (fields.map (·.1)).Nodup)
    {f : String × Filling} (hf : f ∈ fields) :
    (fields.find? fun g => g.1.toList == f.1.toList).map (·.2) = some f.2 := by
  have hfound : (fields.find? fun g => g.1.toList == f.1.toList).isSome :=
    List.find?_isSome.mpr ⟨f, hf, beq_self_eq_true _⟩
  obtain ⟨g, hg⟩ := Option.isSome_iff_exists.mp hfound
  have hbeq : (g.1.toList == f.1.toList) = true :=
    List.find?_some (p := fun g : String × Filling => g.1.toList == f.1.toList) hg
  have hname : g.1 = f.1 := String.toList_inj.mp (beq_iff_eq.mp hbeq)
  have hsame : g = f := List.inj_on_of_nodup_map hn (List.mem_of_find?_eq_some hg) hf hname
  rw [hg, hsame]
  rfl

/-- a field that any record has is seen in every template -/
theorem field?_of_mem (stamp : Stamp) (r : Record) (template : List Char) {f : String × Filling}
    (hf : f ∈ r.fields stamp) : (r.view stamp template).field? f.1.toList = some f.2 := by
  have hn : ((r.fields stamp ++ [timeField stamp]).map (·.1)).Nodup :=
    r.map_fields stamp ▸ nodup_fieldNames
  unfold view
  dsimp only
  split
  · exact find?_of_mem hn (List.mem_append_left _ hf)
  · rw [List.map_append] at hn
    exact find?_of_mem (List.nodup_append.mp hn).1 hf

theorem field?_time (stamp : Stamp) (r : Record) {template : List Char}
    (h : isTimed template = true) :
    (r.view stamp template).field? "asctime".toList = some (.text stamp.time) := by
  have hn : ((r.fields stamp ++ [timeField stamp]).map (·.1)).Nodup :=
    r.map_fields stamp ▸ nodup_fieldNames
  unfold view
  dsimp only
  rw [if_pos h]
  exact find?_of_mem (f := timeField stamp) hn (List.mem_append_right _ (List.mem_singleton_self _))

theorem exists_field? (stamp : Stamp) (r : Record) {f : Field} (h : f.name ∈ fieldNames)
    {ps : List Piece} (hf : .field f ∈ ps) :
    ∃ x, (r.view stamp (ps.flatMap Piece.chars)).field? f.name.toList = some x := by
  rw [← r.map_fields stamp, List.map_append, List.mem_append] at h
  rcases h with hmem | htime
  · obtain ⟨g, hg, hname⟩ := List.mem_map.mp hmem
    exact ⟨g.2, hname ▸ r.field?_of_mem stamp _ hg⟩
  · have hname : f.name = "asctime" := List.mem_singleton.mp htime
    rw [hname]
    exact ⟨_, r.field?_time stamp (isTimed_field hname hf)⟩

theorem exists_integer (stamp : Stamp) (r : Record) {name : String} (h : name ∈ integerNames)
    (template : List Char) :
    ∃ n, (r.view stamp template).field? name.toList = some (.int n) := by
  have hfield : ∃ (i : Nat) (n : Int), (r.fields stamp)[i]? = some (name, .int n) := by
    simp only [integerNames, List.mem_cons, List.not_mem_nil, or_false] at h
    -- each at its place among the fields
    rcases h with rfl | rfl | rfl | rfl
    · exact ⟨4, r.level, rfl⟩
    · exact ⟨11, stamp.line, rfl⟩
    · exact ⟨16, stamp.thread, rfl⟩
    · exact ⟨19, stamp.process, rfl⟩
  obtain ⟨i, n, hi⟩ := hfield
  have hseen := r.field?_of_mem stamp template (List.mem_of_getElem? hi)
  exact ⟨n, hseen⟩

/-- a record offers all that a template of its fields asks for -/
theorem offered_view (stamp : Stamp) (r : Record) {ps : List Piece}
    (h : ∀ p ∈ ps, LineTemplate.Suits p) :
    ∀ p ∈ ps, p.Offered (r.view stamp (ps.flatMap Piece.chars)) := by
  intro p hp
  cases p with
  | literal | percent => trivial
  | field f =>
    obtain ⟨hname, hinteger⟩ := h _ hp
    obtain ⟨x, hx⟩ := r.exists_field? stamp hname hp
    refine ⟨x, hx, fun hletter => ?_⟩
    obtain ⟨n, hn⟩ := r.exists_integer stamp (hinteger hletter) (ps.flatMap Piece.chars)
    rw [hx] at hn
    exact ⟨n, by rw [Option.some.inj hn]; rfl⟩

/-- **Lines.**  Every record has a line in a plain template: the pieces filled in with its fields,
and the trouble behind them. -/
theorem render?_spelled (stamp : Stamp) (r : Record) {t : String} {ps : List Piece}
    (h : LineTemplate.Spelled t ps) :
    let line := ps.flatMap (Piece.shown (r.view stamp t.toList))
    r.render? stamp t = some (r.trouble.elim (String.ofList line) fun trouble =>
      String.ofList (if line.getLast? = some '\n' then line else line ++ ['\n'])
        ++ trouble.label ++ ": " ++ trouble.message) := by
  have hrender := Template.render_pieces h.valid (r.offered_view stamp h.suits)
  rw [← h.chars] at hrender
  unfold render?
  rw [hrender]
  cases r.trouble <;> rfl

end Record

/-! ## the templates that are there -/

namespace LineTemplate

theorem Plain.exists_line {t : String} (h : Plain t) (stamp : Stamp) (r : Record) :
    ∃ line, r.render? stamp t = some line :=
  h.elim fun _ hps => ⟨_, r.render?_spelled stamp hps⟩

theorem bare_plain : Plain bareTemplate :=
  ⟨[.field { name := "message" }], by decide +kernel, by decide +kernel, rfl⟩

theorem standard_plain : Plain standardTemplate :=
  ⟨[.field { name := "asctime" }, .literal " - pid:".toList,
    .field { name := "process", letter := 'd' }, .literal " [".toList,
    .field { name := "levelname", flags := ['-'], precision := some ['1'] }, .literal "] ".toList,
    .field { name := "module" }, .literal ".".toList, .field { name := "funcName" },
    .literal ":".toList, .field { name := "lineno", letter := 'd' }, .literal " - ".toList,
    .field { name := "message" }], by decide +kernel, by decide +kernel, by decide +kernel⟩

end LineTemplate

end Log

end ProxyInjector
