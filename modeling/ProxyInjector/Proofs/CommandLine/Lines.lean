import ProxyInjector.Proofs.CommandLine.Phrases

/-!
# Command lines of phrases

On a command line of phrases, with at most one word somewhere between them that is no option, the
word goes to the positional flag wherever it stands, and of the phrases for one flag the last one
counts.

* `lastOf?`              the last value that is set under a target.  Where no target is new, this is
                         what is read of it afterwards (`Slots.fields_assign`);
* `Slots.Honest`         what looks like a default is one, so that settling the flags that were not
                         given changes no value (`settle_honest`);
* `Parser.Tidy`          parsers whose flags are simple, one of them positional;
* `Parser.takeAll_line`  what the words set, in their order;
* `Parser.read_line`     the whole.
-/

namespace ProxyInjector.CommandLine

/-! ## the last value of each target -/

/-- the last value that is set under a target -/
def lastOf? (sets : List (String × Value)) (target : String) : Option Value :=
  (sets.filterMap fun a => if a.1 = target then some a.2 else none).getLast?

theorem lastOf?_append (as bs : List (String × Value)) (target : String) :
    lastOf? (as ++ bs) target = (lastOf? bs target).or (lastOf? as target) := by
  rw [lastOf?, List.filterMap_append, List.getLast?_append]
  rfl

theorem lastOf?_singleton (a : String × Value) (target : String) :
    lastOf? [a] target = if a.1 = target then some a.2 else none := by
  rw [lastOf?, List.filterMap_cons]
  split <;> simp_all

theorem lastOf?_eq_none {sets : List (String × Value)} {target : String}
    (h : ∀ a ∈ sets, a.1 ≠ target) : lastOf? sets target = none := by
  have hnone : sets.filterMap (fun a => if a.1 = target then some a.2 else none) = [] :=
    List.filterMap_eq_nil_iff.mpr fun a ha => if_neg (h a ha)
  rw [lastOf?, hnone]
  rfl

/-- a value counts wherever it stands, if nothing behind it is set under its target -/
theorem lastOf?_insert (as : List (String × Value)) {a : String × Value}
    {bs : List (String × Value)} (h : ∀ b ∈ bs, b.1 ≠ a.1) (target : String) :
    lastOf? (as ++ a :: bs) target
      = if target = a.1 then some a.2 else lastOf? (as ++ bs) target := by
  rw [← List.singleton_append, lastOf?_append, lastOf?_append, lastOf?_singleton, lastOf?_append]
  by_cases htarget : target = a.1
  · subst htarget
    simp [lastOf?_eq_none h]
  · simp [htarget, Ne.symm htarget]

namespace Entries

variable {t u : Entries} {a : String}

theorem keys_put (h : a ∈ t.map (·.1)) (slot : Slot) :
    (Entries.put t a slot).map (·.1) = t.map (·.1) := by
  induction t with
  | nil => cases h
  | cons e t ih =>
    unfold put
    by_cases he : e.1 = a
    · simp [he]
    · have ha : a ∈ t.map (·.1) := by
        rw [List.map_cons, List.mem_cons] at h
        exact h.resolve_left (Ne.symm he)
      simpa [he] using ih ha

theorem get?_of_mem (hn : (t.map (·.1)).Nodup) {e : String × Slot} (he : e ∈ t) :
    Entries.get? t e.1 = some e.2 := by
  induction t with
  | nil => cases he
  | cons e' t ih =>
    rw [List.map_cons, List.nodup_cons] at hn
    rcases List.mem_cons.mp he with rfl | he
    · simp [get?]
    · have hne : e'.1 ≠ e.1 := fun h => hn.1 (List.mem_map.mpr ⟨e, he, h.symm⟩)
      simpa [get?, hne] using ih hn.2 he

/-- a value set once more changes nothing that can be read -/
theorem fields_put_self {slot : Slot} (h : Entries.get? t a = some slot) :
    (Entries.put t a { value := slot.value }).fields = Entries.fields t := by
  induction t with
  | nil => cases h
  | cons e t ih =>
    unfold put
    by_cases he : e.1 = a
    · have hslot : e.2 = slot := by simpa [get?, he] using h
      simp [fields, he, hslot]
    · have ht : Entries.get? t a = some slot := by simpa [get?, he] using h
      simpa [fields, he] using ih ht

/-- what can be read tells which targets there are -/
theorem get?_eq_none_of_fields (h : Entries.fields t = Entries.fields u)
    (hnone : Entries.get? u a = none) : Entries.get? t a = none := by
  have hread := find?_fields t a
  rw [h, find?_fields, hnone] at hread
  exact Option.map_eq_none_iff.mp hread.symm

end Entries

namespace Slots

theorem get?_assign (s : Slots) (sets : List (String × Value)) (target : String) :
    (s.assign sets).get? target
      = ((lastOf? sets target).map fun v => { value := v }).or (s.get? target) := by
  induction sets generalizing s with
  | nil => rfl
  | cons a sets ih =>
    show ((s.put a.1 { value := a.2 }).assign sets).get? target = _
    rw [ih, get?_put, ← List.singleton_append, lastOf?_append, lastOf?_singleton]
    cases lastOf? sets target with
    | some v => rfl
    | none =>
      split <;> rfl

theorem keys_assign {s : Slots} {sets : List (String × Value)}
    (h : ∀ a ∈ sets, a.1 ∈ s.entries.map (·.1)) :
    (s.assign sets).entries.map (·.1) = s.entries.map (·.1) := by
  induction sets generalizing s with
  | nil => rfl
  | cons a sets ih =>
    obtain ⟨ha, hsets⟩ := List.forall_mem_cons.mp h
    have hput : (s.put a.1 { value := a.2 }).entries.map (·.1) = s.entries.map (·.1) :=
      Entries.keys_put ha _
    show ((s.put a.1 { value := a.2 }).assign sets).entries.map (·.1) = _
    rw [ih (by rwa [hput]), hput]

/-- where no target is new, each has the last value that is set under it, or the one that it had -/
theorem fields_assign {s : Slots} (hn : (s.entries.map (·.1)).Nodup)
    {sets : List (String × Value)} (h : ∀ a ∈ sets, a.1 ∈ s.entries.map (·.1)) :
    (s.assign sets).entries.fields
      = s.entries.fields.map fun e => (e.1, (lastOf? sets e.1).getD e.2) := by
  have hread {t : Entries} (hn : (t.map (·.1)).Nodup) :
      t.fields = (t.map (·.1)).map fun k => (k, ((t.get? k).map (·.value)).getD .null) := by
    rw [Entries.fields, List.map_map]
    refine List.map_congr_left fun e he => ?_
    show _ = (e.1, ((t.get? e.1).map (·.value)).getD .null)
    rw [Entries.get?_of_mem hn he]
    rfl
  rw [hread (by rwa [keys_assign h]), keys_assign h, Entries.fields, List.map_map, List.map_map]
  refine List.map_congr_left fun e he => ?_
  have hhad : s.get? e.1 = some e.2 := Entries.get?_of_mem hn he
  show (e.1, (((s.assign sets).get? e.1).map (·.value)).getD .null)
    = (e.1, (lastOf? sets e.1).getD e.2.value)
  rw [get?_assign, hhad]
  cases lastOf? sets e.1 <;> rfl

end Slots

/-! ## the flags that were not given -/

/-- what looks like the default of a flag reads as that default -/
def Slots.Honest (s : Slots) (fs : List Known) : Prop :=
  ∀ f ∈ fs, ∀ slot text, s.get? f.1.target = some slot → f.1.default = some (.text text) →
    slot.isDefault f.2 text = true → slot.value = .text text

theorem Slots.Honest.put {s : Slots} {fs : List Known} (h : s.Honest fs) (target : String)
    (v : Value) : (s.put target { value := v }).Honest fs := by
  intro f hf slot text hslot hdefault hlooks
  rw [Slots.get?_put] at hslot
  split at hslot
  · obtain rfl := Option.some.inj hslot
    unfold Slot.isDefault at hlooks
    split at hlooks
    · next t hv =>
      obtain rfl : v = .text t := hv
      have ht : t = text := by simp at hlooks; exact hlooks.1
      rw [ht]
    · cases hlooks
  · exact h f hf slot text hslot hdefault hlooks

theorem Slots.Honest.assign {s : Slots} {fs : List Known} (h : s.Honest fs)
    (sets : List (String × Value)) : (s.assign sets).Honest fs := by
  induction sets generalizing s with
  | nil => exact h
  | cons a sets ih => exact ih (h.put a.1 a.2)

namespace Parser

theorem settle_honest {fs : List Known} (hfs : ∀ f ∈ fs, f.1.Simple) (seen : List Nat)
    {slots : Slots} (h : slots.Honest fs) (missing : List (Option Value)) :
    ∃ slots', settle fs seen slots missing = .ok (slots', missing.reverse) ∧
      slots'.entries.fields = slots.entries.fields := by
  induction fs generalizing slots with
  | nil => exact ⟨slots, rfl, rfl⟩
  | cons f fs ih =>
    obtain ⟨f, i⟩ := f
    obtain ⟨hf, hfs⟩ := List.forall_mem_cons.mp hfs
    have hrest : slots.Honest fs := fun g hg => h g (List.mem_cons_of_mem _ hg)
    unfold settle
    split
    · exact ih hfs hrest
    · rw [hf.optional, if_neg Bool.false_ne_true]
      split
      · next slot text hslot hdefault =>
        split
        · next hlooks =>
          have hvalue := h (f, i) List.mem_cons_self slot text hslot hdefault hlooks
          obtain ⟨slots', hsettle, hfields⟩ := ih hfs (hrest.put f.target (.text text))
          refine ⟨slots', ?_, ?_⟩
          · rw [hf.form.convert_text]
            show (do
              settle fs seen (← slots.suit (slots.set f.target (.text text) none)) missing) = _
            rw [Slots.set_eq hf]
            exact hsettle
          · rw [hfields, ← hvalue]
            exact Entries.fields_put_self hslot
        · exact ih hfs hrest
      · exact ih hfs hrest

/-! ## the whole command line -/

/-- a parser of simple flags, one of them positional, that starts with the defaults of its flags -/
structure Tidy (p : Parser) (operand : Known) : Prop where
  simple : p.Simple
  noSign : ∀ o ∈ p.options, '=' ∉ o.1.toList
  positionals : p.positionals = [operand]
  targets : ∀ f ∈ p.flags, f.action ≠ .help → f.target ∈ p.defaults.entries.map (·.1)
  nodup : (p.defaults.entries.map (·.1)).Nodup
  honest : p.defaults.Honest p.flags.zipIdx
  noExtras : p.defaults.get? extrasTarget = none

variable {p : Parser} {operand : Known}

theorem Tidy.operand_mem (h : p.Tidy operand) :
    operand ∈ p.flags.zipIdx ∧ operand.1.names = [] := by
  have hmem : operand ∈ p.positionals := by simp [h.positionals]
  obtain ⟨hknown, hpositional⟩ := List.mem_filter.mp hmem
  exact ⟨hknown, List.isEmpty_iff.mp hpositional⟩

theorem Tidy.mem_targets (h : p.Tidy operand) {f : Known} (hf : f ∈ p.flags.zipIdx)
    (haction : f.1.action = .setConstant ∨ f.1.action = .store) :
    f.1.target ∈ p.defaults.entries.map (·.1) := by
  refine h.targets f.1 (List.fst_mem_of_mem_zipIdx hf) fun hhelp => ?_
  rw [hhelp] at haction
  rcases haction with haction | haction <;> cases haction

/-- an option of a phrase is another flag than the positional one -/
theorem Tidy.target_ne (h : p.Tidy operand) {ph : Phrase} (hph : ph.Valid p) :
    ph.sets.1 ≠ operand.1.target := by
  obtain ⟨hoperand, hnameless⟩ := h.operand_mem
  have hflag := List.fst_mem_of_mem_zipIdx hph.known
  rw [ph.target_sets]
  refine fun htarget => hph.form.1 ?_
  rw [h.simple.eq_of_target hflag (List.fst_mem_of_mem_zipIdx hoperand) htarget]
  exact hnameless

theorem length_le_arguments (phs : List Phrase) :
    phs.length ≤ (phs.flatMap Phrase.arguments).length := by
  induction phs with
  | nil => exact Nat.le_refl 0
  | cons ph phs ih =>
    have hone : 1 ≤ ph.arguments.length := by cases ph <;> simp [Phrase.arguments]
    rw [List.flatMap_cons, List.length_append, List.length_cons]
    omega

section
variable {before behind : List Phrase} {word : Option String}

/-- the roles of the words of a command line -/
def argumentsOf (before behind : List Phrase) (word : Option String) : List Argument :=
  before.flatMap Phrase.arguments ++ (word.toList.map fun w => (.text w, .plain))
    ++ behind.flatMap Phrase.arguments

theorem recognizeAll_line (h : p.Tidy operand) (hphs : ∀ ph ∈ before ++ behind, ph.Valid p)
    (hword : ∀ w, word = some w → startsWithDash w = false) :
    p.recognizeAll ((before.flatMap Phrase.words ++ word.toList
        ++ behind.flatMap Phrase.words).map .text)
      = .ok (argumentsOf before behind word) := by
  obtain ⟨hbefore, hbehind⟩ := List.forall_mem_append.mp hphs
  have hend : p.recognizeAll ((behind.flatMap Phrase.words).map .text)
      = .ok (behind.flatMap Phrase.arguments) := by
    have hread := recognizeAll_phrases h.noSign hbehind []
    rwa [List.append_nil, recognizeAll, Except.map, List.append_nil] at hread
  rw [List.append_assoc, List.map_append, recognizeAll_phrases h.noSign hbefore]
  cases word with
  | none =>
    show (p.recognizeAll ((behind.flatMap Phrase.words).map .text)).map _ = _
    rw [hend]
    simp [Except.map, argumentsOf]
  | some w =>
    have hw := hword w rfl
    show (p.recognizeAll (.text w :: (behind.flatMap Phrase.words).map .text)).map _ = _
    rw [recognizeAll_cons (ne_bar_of_plain hw) (recognize_plain hw), hend]
    simp [Except.map, argumentsOf]

end

/-- phrases alone leave the positional flag its default -/
theorem takeAll_phrases (h : p.Tidy operand) {phs : List Phrase} (hphs : ∀ ph ∈ phs, ph.Valid p)
    (slots : Slots) :
    ∃ seen, p.takeAll { slots, pending := [operand] } (phs.flatMap Phrase.arguments)
      = .ok { slots := slots.assign (phs.map Phrase.sets ++ [(operand.1.target, .null)])
              pending := [], seen } := by
  obtain ⟨hoperand, hnameless⟩ := h.operand_mem
  obtain ⟨k, hk⟩ := Nat.exists_eq_add_of_le' (length_le_arguments phs)
  refine ⟨operand.2 :: ((phs.map fun ph => ph.flag.2).reverse ++ []), ?_⟩
  have htaken := takeAllFrom_phrases h.simple hphs (k + 1) { slots, pending := [operand] } []
  rw [List.append_nil] at htaken
  rw [takeAll, hk, Nat.add_right_comm, htaken, takeAllFrom_plain rfl k
    (Progress.takePositionals_nil (h.simple.known hoperand) hnameless _ rfl), Slots.assign_append]
  rfl

/-- a word among phrases goes to the positional flag -/
theorem takeAll_word (h : p.Tidy operand) {before behind : List Phrase}
    (hbefore : ∀ ph ∈ before, ph.Valid p) (hbehind : ∀ ph ∈ behind, ph.Valid p) {w : String}
    (hw : w ≠ "--") (slots : Slots) :
    ∃ seen, p.takeAll { slots, pending := [operand] } (before.flatMap Phrase.arguments
        ++ (.text w, .plain) :: behind.flatMap Phrase.arguments)
      = .ok { slots := slots.assign (before.map Phrase.sets
                ++ (operand.1.target, .text w) :: behind.map Phrase.sets)
              pending := [], seen } := by
  obtain ⟨hoperand, hnameless⟩ := h.operand_mem
  obtain ⟨k, hk⟩ := Nat.exists_eq_add_of_le' (length_le_arguments before)
  obtain ⟨l, hl⟩ := Nat.exists_eq_add_of_le' (length_le_arguments behind)
  have hfuel : (before.flatMap Phrase.arguments
      ++ (Value.text w, Role.plain) :: behind.flatMap Phrase.arguments).length + 1
        = k + l + behind.length + 2 + before.length := by
    rw [List.length_append, List.length_cons, hk, hl]
    omega
  refine ⟨(behind.map fun ph => ph.flag.2).reverse
    ++ operand.2 :: ((before.map fun ph => ph.flag.2).reverse ++ []), ?_⟩
  rw [takeAll, hfuel, takeAllFrom_phrases h.simple hbefore,
    takeAllFrom_word (h.simple.known hoperand) hnameless _ rfl hw, Slots.assign_append]
  have hrest (t : Progress) := takeAllFrom_phrases h.simple hbehind (k + l + 1) t []
  simp only [List.append_nil, Nat.add_right_comm _ 1 _] at hrest ⊢
  rw [hrest, takeAllFrom_plain rfl _ (Progress.takePositionals_done rfl)]
  rfl

section
variable {before behind : List Phrase} {word : Option String}

/-- phrases set their values, and the positional flag has the word, or its default -/
theorem takeAll_line (h : p.Tidy operand) (hphs : ∀ ph ∈ before ++ behind, ph.Valid p)
    (hword : ∀ w, word = some w → startsWithDash w = false) (slots : Slots) :
    ∃ seen sets, p.takeAll { slots, pending := [operand] } (argumentsOf before behind word)
        = .ok { slots := slots.assign sets, pending := [], seen } ∧
      (∀ a ∈ sets, a ∈ (before ++ behind).map Phrase.sets ∨ a.1 = operand.1.target) ∧
      ∀ target, lastOf? sets target = if target = operand.1.target
        then some (word.elim .null .text)
        else lastOf? ((before ++ behind).map Phrase.sets) target := by
  cases word with
  | none =>
    have hline : argumentsOf before behind none = (before ++ behind).flatMap Phrase.arguments := by
      simp [argumentsOf]
    obtain ⟨seen, htaken⟩ := takeAll_phrases h hphs slots
    rw [hline]
    refine ⟨seen, _, htaken, fun a ha => ?_, fun target => ?_⟩
    · exact (List.mem_append.mp ha).imp_right fun ha => by rw [List.mem_singleton.mp ha]
    · rw [lastOf?_insert _ (List.forall_mem_nil _), List.append_nil]
      rfl
  | some w =>
    obtain ⟨hbefore, hbehind⟩ := List.forall_mem_append.mp hphs
    have hline : argumentsOf before behind (some w) = before.flatMap Phrase.arguments
        ++ (.text w, .plain) :: behind.flatMap Phrase.arguments := by
      simp [argumentsOf]
    obtain ⟨seen, htaken⟩ :=
      takeAll_word h hbefore hbehind (ne_bar_of_plain (hword w rfl)) slots
    rw [hline]
    refine ⟨seen, _, htaken, fun a ha => ?_, fun target => ?_⟩
    · rw [List.map_append, List.mem_append]
      rcases List.mem_append.mp ha with ha | ha
      · exact .inl (.inl ha)
      · rcases List.mem_cons.mp ha with rfl | ha
        · exact .inr rfl
        · exact .inl (.inr ha)
    · have hother : ∀ a ∈ behind.map Phrase.sets, a.1 ≠ operand.1.target :=
        List.forall_mem_map.mpr fun ph hph => h.target_ne (hbehind ph hph)
      rw [lastOf?_insert _ hother, List.map_append]
      rfl

/-- **Phrases and a word.**  The positional flag has the word, or nothing, and every other target
the last value that a phrase sets under it, or the default of its flag. -/
theorem read_line (h : p.Tidy operand) (hphs : ∀ ph ∈ before ++ behind, ph.Valid p)
    (hword : ∀ w, word = some w → startsWithDash w = false) :
    (p.read ((before.flatMap Phrase.words ++ word.toList
        ++ behind.flatMap Phrase.words).map .text)).result
      = .ok (p.defaults.entries.fields.map fun e => (e.1,
          if e.1 = operand.1.target then word.elim .null .text
          else (lastOf? ((before ++ behind).map Phrase.sets) e.1).getD e.2)) := by
  have htargets : p.checkTargets = .ok () := by
    rw [checkTargets, List.findSome?_eq_none_iff.mpr fun f hf => (h.simple.flags f hf).isText]
  obtain ⟨seen, sets, htaken, hsets, hlast⟩ := takeAll_line h hphs hword p.defaults
  have hkeys : ∀ a ∈ sets, a.1 ∈ p.defaults.entries.map (·.1) := by
    intro a ha
    rcases hsets a ha with ha | ha
    · obtain ⟨ph, hph, rfl⟩ := List.mem_map.mp ha
      rw [ph.target_sets]
      exact h.mem_targets (hphs ph hph).known (hphs ph hph).form.2
    · obtain ⟨hoperand, hnameless⟩ := h.operand_mem
      rw [ha]
      exact h.mem_targets hoperand (.inr ((h.simple.known hoperand).operand hnameless).2.1)
  have hnew : extrasTarget ∉ sets.map (·.1) := by
    intro hmem
    obtain ⟨a, ha, htarget⟩ := List.mem_map.mp hmem
    obtain ⟨e, he, hkey⟩ := List.mem_map.mp (hkeys a ha)
    have hsome : p.defaults.get? e.1 = some e.2 := Entries.get?_of_mem h.nodup he
    rw [hkey, htarget, h.noExtras] at hsome
    cases hsome
  obtain ⟨slots, hsettled, hfields⟩ := settle_honest (fun f hf => h.simple.known hf) seen
    (h.honest.assign sets) []
  have hextras : slots.get? extrasTarget = none :=
    Entries.get?_eq_none_of_fields hfields
      ((Slots.get?_assign_of_not_mem _ hnew).trans h.noExtras)
  have hread : p.readSlots ((before.flatMap Phrase.words ++ word.toList
      ++ behind.flatMap Phrase.words).map .text) = .ok slots := by
    simp only [readSlots, htargets, recognizeAll_line h hphs hword, h.positionals, Slots.step,
      Except.mapError, bind, Except.bind, htaken, hsettled, splitExtras, hextras]
    rfl
  rw [read, hread]
  show Except.ok slots.entries.fields = _
  rw [hfields, Slots.fields_assign h.nodup hkeys]
  refine congrArg _ (List.map_congr_left fun e _ => ?_)
  rw [hlast]
  split <;> rfl

end

end Parser

end ProxyInjector.CommandLine
