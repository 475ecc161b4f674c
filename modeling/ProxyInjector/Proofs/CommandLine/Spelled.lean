import ProxyInjector.Proofs.CommandLine.Reading
import ProxyInjector.Proofs.Text.Segments

/-!
# Options written out

An option by its full name, alone or with a value behind an equals sign, is read back whatever
the value holds, and whatever follows it.  Only a bare double dash would be dropped.

* `Spelling`                           an option and its word;
* `Spelling.recognize_word`            the word is recognized;
* `Parser.takeAllFrom_spellings`       options one behind the other set their values, one behind the
                                       other (`Slots.assign`).
-/

namespace ProxyInjector.CommandLine

/-! ## values set one behind the other -/

namespace Slots

def assign (s : Slots) (sets : List (String × Value)) : Slots :=
  sets.foldl (fun s a => s.put a.1 { value := a.2 }) s

theorem assign_append (s : Slots) (as bs : List (String × Value)) :
    s.assign (as ++ bs) = (s.assign as).assign bs := List.foldl_append

theorem get?_assign_of_not_mem (s : Slots) {sets : List (String × Value)} {target : String}
    (h : target ∉ sets.map (·.1)) : (s.assign sets).get? target = s.get? target := by
  induction sets generalizing s with
  | nil => rfl
  | cons a sets ih =>
    rw [List.map_cons, List.mem_cons, not_or] at h
    show ((s.put a.1 { value := a.2 }).assign sets).get? target = _
    rw [ih _ h.2, get?_put, if_neg (Ne.symm h.1)]

end Slots

/-! ## options -/

/-- an option by its name, alone or with a value behind an equals sign -/
structure Spelling where
  flag : Known
  name : String
  value : Option String := none

namespace Spelling

def word (s : Spelling) : String :=
  match s.value with
  | none => s.name
  | some v => s.name ++ "=" ++ v

def argument (s : Spelling) : Argument :=
  (.text s.word, .option ⟨some s.flag, s.name, s.value.map String.toList⟩)

/-- what the option sets -/
def sets (s : Spelling) : String × Value :=
  (s.flag.1.target, s.value.elim s.flag.1.constant .text)

/-- the option is the flag's, and the flag takes what is written there -/
structure Valid (p : Parser) (s : Spelling) : Prop where
  named : p.option? s.name = some s.flag
  dashed : startsWithDash s.name = true
  noSign : '=' ∉ s.name.toList
  noBar : s.name ≠ "--"
  alone : s.value = none → s.flag.1.arity = .exactly 0 ∧ s.flag.1.action = .setConstant
  withText : ∀ v, s.value = some v → s.flag.1.arity = .one ∧ s.flag.1.action = .store ∧
    s.flag.1.conversion = some .text ∧ v ≠ "--" ∧ s.flag.1.check (.text v) = .ok (.text v)

section
variable {p : Parser} {s : Spelling} {f : Known} {name : String}

theorem Valid.switch (hnamed : p.option? name = some f)
    (hname : startsWithDash name = true ∧ '=' ∉ name.toList ∧ name ≠ "--")
    (hform : f.1.arity = .exactly 0 ∧ f.1.action = .setConstant) : Valid p ⟨f, name, none⟩ :=
  ⟨hnamed, hname.1, hname.2.1, hname.2.2, fun _ => hform, nofun⟩

theorem Valid.text {v : String} (hnamed : p.option? name = some f)
    (hname : startsWithDash name = true ∧ '=' ∉ name.toList ∧ name ≠ "--")
    (hform : f.1.arity = .one ∧ f.1.action = .store ∧ f.1.conversion = some .text)
    (hv : v ≠ "--") (hcheck : f.1.check (.text v) = .ok (.text v)) : Valid p ⟨f, name, some v⟩ := by
  refine ⟨hnamed, hname.1, hname.2.1, hname.2.2, nofun, fun v' hv' => ?_⟩
  obtain rfl := Option.some.inj hv'
  exact ⟨hform.1, hform.2.1, hform.2.2, hv, hcheck⟩

theorem toList_word_of_some {v : String} (h : s.value = some v) :
    s.word.toList = s.name.toList ++ '=' :: v.toList := by
  rw [word, h]
  simp

theorem startsWithDash_word (h : s.Valid p) : startsWithDash s.word = true := by
  have hdashed := h.dashed
  unfold startsWithDash at hdashed ⊢
  cases hv : s.value with
  | none => rwa [word, hv]
  | some v =>
    rw [toList_word_of_some hv]
    cases hname : s.name.toList with
    | nil =>
      rw [hname] at hdashed
      cases hdashed
    | cons c cs => rwa [hname] at hdashed

/-- a word with an equals sign is neither a name nor a dash or two -/
theorem word_ne (hv : s.value ≠ none) {t : String} (ht : '=' ∉ t.toList) : s.word ≠ t := by
  rintro rfl
  obtain ⟨v, hv⟩ := Option.ne_none_iff_exists'.mp hv
  exact ht (by rw [toList_word_of_some hv]; simp)

theorem recognize_word (hp : ∀ o ∈ p.options, '=' ∉ o.1.toList) (h : s.Valid p) :
    p.recognize (.text s.word) = .ok s.argument.2 := by
  have hdashed := startsWithDash_word h
  have hne : s.word ≠ "" := by
    intro hempty
    rw [hempty] at hdashed
    cases hdashed
  have htruthy : (Value.text s.word).truthy = true := bne_iff_ne.mpr hne
  have htext : p.recognizeText s.word = .ok s.argument.2 := by
    unfold Parser.recognizeText
    rw [hdashed]
    cases hv : s.value with
    | none =>
      have hword : s.word = s.name := by rw [word, hv]
      rw [hword, h.named, argument, hv]
      rfl
    | some v =>
      have hsome : s.value ≠ none := by rw [hv]; exact nofun
      have hnone : p.option? s.word = none := by
        refine Option.map_eq_none_iff.mpr (List.find?_eq_none.mpr fun o ho => ?_)
        rw [beq_iff_eq]
        exact fun heq => word_ne hsome (hp o ho) heq.symm
      have hdash : s.word ≠ "-" := word_ne hsome (by decide)
      have hassigned : p.assigned? s.word.toList
          = some ⟨some s.flag, s.name, some v.toList⟩ := by
        rw [Parser.assigned?, toList_word_of_some hv, Text.cut?_append_cons h.noSign]
        simp [h.named]
      rw [hnone, argument, hv]
      simp only [hdash, if_false, hassigned]
      rfl
  unfold Parser.recognize
  rw [htruthy]
  exact htext

theorem isDoubleDash_word (h : s.Valid p) : Parser.isDoubleDash (.text s.word) = false := by
  refine beq_false_of_ne ?_
  cases hv : s.value with
  | none =>
    rw [word, hv]
    exact h.noBar
  | some v => exact word_ne (by rw [hv]; exact nofun) (by decide)

end

end Spelling

/-! ## reading them back -/

theorem Progress.take_of_value {f : Known} (hf : f.1.Simple) (t : Progress) {args : List Value}
    {v w : Value} (hvalue : f.1.value args = .ok (some v))
    (hact : ∀ held, f.1.act held v = .ok w) :
    t.take f args = .ok { t with
      slots := t.slots.put f.1.target { value := w }
      seen := f.2 :: t.seen } := by
  have hset := Slots.set_eq hf t.slots w ((f.1.own? args).map (Owner.mk f.2))
  simp only [Progress.take, hvalue, Slots.step, Slots.suit, Except.mapError, bind, Except.bind,
    hact, hset]

namespace Parser

section
variable {p : Parser} {ss : List Spelling}

theorem recognizeAll_spellings (hp : ∀ o ∈ p.options, '=' ∉ o.1.toList)
    (hss : ∀ s ∈ ss, s.Valid p) (rest : List Value) :
    p.recognizeAll (ss.map (fun s => .text s.word) ++ rest)
      = (p.recognizeAll rest).map (ss.map Spelling.argument ++ ·) := by
  induction ss with
  | nil =>
    rw [List.map_nil, List.nil_append]
    cases p.recognizeAll rest <;> rfl
  | cons s ss ih =>
    obtain ⟨hs, hss⟩ := List.forall_mem_cons.mp hss
    rw [List.map_cons, List.cons_append, recognizeAll, Spelling.isDoubleDash_word hs,
      if_neg Bool.false_ne_true, Spelling.recognize_word hp hs, ih hss]
    cases p.recognizeAll rest <;> rfl

/-- the option sets its value and takes nothing behind it -/
theorem takeOption_spelling (hp : p.Simple) {s : Spelling} (hs : s.Valid p) (t : Progress)
    (rest : List Argument) :
    p.takeOption t ⟨some s.flag, s.name, s.value.map String.toList⟩ (.text s.word) rest
      = .ok ({ t with
          slots := t.slots.put s.sets.1 { value := s.sets.2 }
          seen := s.flag.2 :: t.seen }, rest) := by
  obtain ⟨hknown, -⟩ := option?_known hs.named
  have hsimple := hp.known hknown
  unfold takeOption
  cases hv : s.value with
  | none =>
    obtain ⟨harity, haction⟩ := hs.alone hv
    have hact (held : Held) : s.flag.1.act held (.list []) = .ok s.sets.2 := by
      rw [Flag.act, haction, Spelling.sets, hv]
      rfl
    have htaken := t.take_of_value hsimple (Flag.value_nothing harity) hact
    have hunfold : p.unfold s.flag s.name (Progress.marks rest) none = .ok ([(s.flag, none)], 0) :=
      unfold_nothing harity
    simp only [Option.map_none, hunfold, Slots.step, Except.mapError, bind, Except.bind,
      withArguments, List.take_zero, List.drop_zero, Option.getD_none, Progress.words, List.map_nil,
      Progress.takeEach, htaken]
    rfl
  | some v =>
    obtain ⟨harity, haction, hconversion, hbar, hcheck⟩ := hs.withText v hv
    have hvalue : s.flag.1.value [.text v] = .ok (some (.text v)) := by
      rw [Flag.value_text harity hconversion hbar, hcheck]
      rfl
    have hact (held : Held) : s.flag.1.act held (.text v) = .ok s.sets.2 := by
      rw [Flag.act, haction, Spelling.sets, hv]
      rfl
    have htaken := t.take_of_value hsimple hvalue hact
    have hunfold : p.unfold s.flag s.name (Progress.marks rest) (some v.toList)
        = .ok ([(s.flag, some v)], 0) := by
      rw [unfold_text_some harity, String.ofList_toList]
    simp only [Option.map_some, hunfold, Slots.step, Except.mapError, bind, Except.bind,
      withArguments, List.drop_zero, Option.getD_some, Progress.takeEach, htaken]
    rfl

/-- an option at the head is taken before anything else -/
theorem takeAllFrom_option (fuel : Nat) (t : Progress) (v : Value) (o : Occurrence)
    (args : List Argument) :
    p.takeAllFrom (fuel + 1) t ((v, .option o) :: args)
      = (p.takeOption t o v args).bind fun x => p.takeAllFrom fuel x.1 x.2 := by
  have hplain : ((v, Role.option o) :: args).all isPlain = false := rfl
  conv_lhs => unfold takeAllFrom
  rw [hplain, if_neg Bool.false_ne_true]
  dsimp only
  cases p.takeOption t o v args <;> rfl

/-- **Options written out.**  They set their values one behind the other, whatever stands behind
them. -/
theorem takeAllFrom_spellings (hp : p.Simple) (hss : ∀ s ∈ ss, s.Valid p) (fuel : Nat)
    (t : Progress) (rest : List Argument) :
    p.takeAllFrom (fuel + ss.length) t (ss.map Spelling.argument ++ rest)
      = p.takeAllFrom fuel { t with
          slots := t.slots.assign (ss.map Spelling.sets)
          seen := (ss.map fun s => s.flag.2).reverse ++ t.seen } rest := by
  induction ss generalizing t with
  | nil => rfl
  | cons s ss ih =>
    obtain ⟨hs, hss⟩ := List.forall_mem_cons.mp hss
    have hseen : ((s :: ss).map fun s => s.flag.2).reverse ++ t.seen
        = (ss.map fun s => s.flag.2).reverse ++ s.flag.2 :: t.seen := by simp
    rw [List.length_cons, ← Nat.add_assoc, List.map_cons, List.cons_append]
    rw [Spelling.argument, takeAllFrom_option, takeOption_spelling hp hs, hseen]
    exact ih hss _

/-- flags that have a default text and were given leave nothing to settle -/
theorem settle_of_given {fs : List Known} {seen : List Nat}
    (h : ∀ f ∈ fs, f.2 ∈ seen ∨ f.1.required = false ∧ ∀ s, f.1.default ≠ some (.text s))
    (slots : Slots) (missing : List (Option Value)) :
    settle fs seen slots missing = .ok (slots, missing.reverse) := by
  induction fs with
  | nil => rfl
  | cons f fs ih =>
    obtain ⟨f, i⟩ := f
    obtain ⟨hf, hfs⟩ := List.forall_mem_cons.mp h
    unfold settle
    split
    · exact ih hfs
    · next hseen =>
      have hnot : i ∉ seen := fun hi => hseen (List.contains_iff_mem.mpr hi)
      obtain ⟨hrequired, hdefault⟩ := hf.resolve_left hnot
      rw [hrequired, if_neg Bool.false_ne_true]
      split
      · next s _ hs => exact absurd hs (hdefault s)
      · exact ih hfs

end

end Parser

end ProxyInjector.CommandLine
