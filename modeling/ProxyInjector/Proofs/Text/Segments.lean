import ProxyInjector.Text.Segments

/-!
# How many pieces there are, and where they are cut

* `length_segments`          one piece more than separators;
* `segments_append_cons`     the first separator ends the first piece;
* `segments_intercalate_flatMap`   texts joined by separators have the pieces of all of them;
* `exists_mem_segments`      all characters but the separators are in the pieces;
* `segments_eq_pair_iff`     two pieces are what stands around the one separator;
* `cut?_append_cons`, `cutLast?_append`   a text that starts with no separator is cut behind it;
* `not_mem_of_cut?`, `not_mem_of_cutLast?`   there is no separator in front of the first and none
                             behind the last.
-/

namespace ProxyInjector.Text

section
variable {sep : Char}

theorem segments_cons_of_ne {c : Char} (h : c ≠ sep) {cs s : List Char} {ss : List (List Char)}
    (hs : segments sep cs = s :: ss) : segments sep (c :: cs) = (c :: s) :: ss := by
  rw [segments, if_neg h, hs]

theorem segments_of_not_mem {cs : List Char} (h : sep ∉ cs) : segments sep cs = [cs] := by
  induction cs with
  | nil => rfl
  | cons c cs ih =>
    have hc : c ≠ sep := Ne.symm (List.ne_of_not_mem_cons h)
    exact segments_cons_of_ne hc (ih (List.not_mem_of_not_mem_cons h))

theorem segments_append_sep (a b : List Char) :
    segments sep (a ++ sep :: b) = segments sep a ++ segments sep b := by
  induction a with
  | nil =>
    show segments sep (sep :: b) = [] :: segments sep b
    rw [segments, if_pos rfl]
  | cons c a ih =>
    by_cases h : c = sep
    · rw [List.cons_append, segments, if_pos h, ih, segments, if_pos h, List.cons_append]
    · obtain ⟨s, ss, hs⟩ := List.exists_cons_of_ne_nil (segments_ne_nil sep a)
      rw [hs, List.cons_append] at ih
      rw [segments_cons_of_ne h hs, List.cons_append, segments_cons_of_ne h ih, List.cons_append]

theorem segments_append_cons {a : List Char} (h : sep ∉ a) (b : List Char) :
    segments sep (a ++ sep :: b) = a :: segments sep b := by
  rw [segments_append_sep, segments_of_not_mem h, List.singleton_append]

theorem segments_append {a : List Char} (h : sep ∉ a) {b s : List Char} {ss : List (List Char)}
    (hs : segments sep b = s :: ss) : segments sep (a ++ b) = (a ++ s) :: ss := by
  induction a with
  | nil => exact hs
  | cons c a ih =>
    have hc : c ≠ sep := Ne.symm (List.ne_of_not_mem_cons h)
    exact segments_cons_of_ne hc (ih (List.not_mem_of_not_mem_cons h))

theorem segments_intercalate_flatMap {texts : List (List Char)} (hne : texts ≠ []) :
    segments sep ([sep].intercalate texts) = texts.flatMap (segments sep) := by
  induction texts with
  | nil => exact absurd rfl hne
  | cons t texts ih =>
    cases texts with
    | nil => rw [List.intercalate_singleton, List.flatMap_singleton]
    | cons u texts =>
      have hjoin : [sep].intercalate (t :: u :: texts)
          = t ++ sep :: [sep].intercalate (u :: texts) := by
        rw [List.intercalate_cons_cons, List.append_assoc]
        rfl
      rw [hjoin, segments_append_sep, ih (List.cons_ne_nil u texts)]
      rfl

theorem length_segments (cs : List Char) : (segments sep cs).length = cs.count sep + 1 := by
  induction cs with
  | nil => rfl
  | cons c cs ih =>
    by_cases h : c = sep
    · rw [segments, if_pos h, List.length_cons, ih, h, List.count_cons_self]
    · obtain ⟨s, ss, hs⟩ := List.exists_cons_of_ne_nil (segments_ne_nil sep cs)
      rw [segments_cons_of_ne h hs, List.count_cons_of_ne h, ← ih, hs]
      rfl

theorem not_mem_of_mem_segments {cs p : List Char} (h : p ∈ segments sep cs) : sep ∉ p := by
  induction cs generalizing p with
  | nil =>
    rw [List.mem_singleton.mp h]
    exact List.not_mem_nil
  | cons c cs ih =>
    by_cases hc : c = sep
    · rw [segments, if_pos hc] at h
      rcases List.mem_cons.mp h with rfl | h
      · exact List.not_mem_nil
      · exact ih h
    · obtain ⟨s, ss, hs⟩ := List.exists_cons_of_ne_nil (segments_ne_nil sep cs)
      rw [segments_cons_of_ne hc hs] at h
      rw [hs] at ih
      rcases List.mem_cons.mp h with rfl | h
      · exact List.not_mem_cons_of_ne_of_not_mem (Ne.symm hc) (ih List.mem_cons_self)
      · exact ih (List.mem_cons_of_mem _ h)

/-- every character but the separators stands in a piece -/
theorem exists_mem_segments {c : Char} (hc : c ≠ sep) {cs : List Char} (h : c ∈ cs) :
    ∃ p ∈ segments sep cs, c ∈ p := by
  induction cs with
  | nil => exact absurd h List.not_mem_nil
  | cons d cs ih =>
    by_cases hd : d = sep
    · have hcs : c ∈ cs := (List.mem_cons.mp h).resolve_left fun he => hc (he.trans hd)
      obtain ⟨p, hp, hm⟩ := ih hcs
      rw [segments, if_pos hd]
      exact ⟨p, List.mem_cons_of_mem _ hp, hm⟩
    · obtain ⟨s, ss, hs⟩ := List.exists_cons_of_ne_nil (segments_ne_nil sep cs)
      rw [segments_cons_of_ne hd hs]
      rcases List.mem_cons.mp h with rfl | h
      · exact ⟨_, List.mem_cons_self, List.mem_cons_self⟩
      · obtain ⟨p, hp, hm⟩ := ih h
        rw [hs] at hp
        rcases List.mem_cons.mp hp with rfl | hp
        · exact ⟨_, List.mem_cons_self, List.mem_cons_of_mem _ hm⟩
        · exact ⟨p, List.mem_cons_of_mem _ hp, hm⟩

theorem segments_eq_pair_iff {cs a b : List Char} :
    segments sep cs = [a, b] ↔ cs = a ++ sep :: b ∧ sep ∉ a ∧ sep ∉ b := by
  constructor
  · intro h
    refine ⟨?_, not_mem_of_mem_segments (h ▸ List.mem_cons_self),
      not_mem_of_mem_segments (h ▸ List.mem_cons_of_mem _ List.mem_cons_self)⟩
    rw [← intercalate_segments sep cs, h]
    simp [List.intercalate, List.intersperse]
  · rintro ⟨rfl, ha, hb⟩
    rw [segments_append_cons ha, segments_of_not_mem hb]

/-! ## cuts -/

theorem cut?_append_cons {a : List Char} (h : sep ∉ a) (b : List Char) :
    cut? sep (a ++ sep :: b) = some (a, b) := by
  induction a with
  | nil => rw [List.nil_append, cut?, if_pos rfl]
  | cons c a ih =>
    have hc : c ≠ sep := Ne.symm (List.ne_of_not_mem_cons h)
    rw [List.cons_append, cut?, if_neg hc, ih (List.not_mem_of_not_mem_cons h)]
    rfl

theorem cutLast?_append {a : List Char} (h : sep ∉ a) (b : List Char) :
    cutLast? sep (a ++ b) = (cutLast? sep b).map fun p => (a ++ p.1, p.2) := by
  induction a with
  | nil => simp
  | cons c a ih =>
    have hc : c ≠ sep := Ne.symm (List.ne_of_not_mem_cons h)
    rw [List.cons_append, cutLast?, ih (List.not_mem_of_not_mem_cons h)]
    cases cutLast? sep b with
    | some p => rfl
    | none => exact if_neg hc

theorem not_mem_of_cut? {cs a b : List Char} (h : cut? sep cs = some (a, b)) : sep ∉ a := by
  induction cs generalizing a with
  | nil => cases h
  | cons c cs ih =>
    rw [cut?] at h
    split at h
    · obtain ⟨rfl, -⟩ := Prod.mk.inj (Option.some.inj h)
      exact List.not_mem_nil
    · next hc =>
      obtain ⟨p, hp, he⟩ := Option.map_eq_some_iff.mp h
      obtain ⟨rfl, rfl⟩ := Prod.mk.inj he
      exact List.not_mem_cons_of_ne_of_not_mem (Ne.symm hc) (ih hp)

theorem not_mem_of_cutLast? {cs a b : List Char} (h : cutLast? sep cs = some (a, b)) : sep ∉ b := by
  induction cs generalizing a with
  | nil => cases h
  | cons c cs ih =>
    rw [cutLast?] at h
    split at h
    · next p hp =>
      obtain ⟨-, rfl⟩ := Prod.mk.inj (Option.some.inj h)
      exact ih hp
    · next hnone =>
      obtain ⟨-, h⟩ := Option.ite_none_right_eq_some.mp h
      obtain ⟨-, rfl⟩ := Prod.mk.inj (Option.some.inj h)
      exact cutLast?_eq_none_iff.mp hnone

theorem cutLast?_append_cons {b : List Char} (h : sep ∉ b) (a : List Char) :
    cutLast? sep (a ++ sep :: b) = some (a, b) := by
  induction a with
  | nil => rw [List.nil_append, cutLast?, cutLast?_eq_none_iff.mpr h, if_pos rfl]
  | cons c a ih => rw [List.cons_append, cutLast?, ih]

theorem beforeFirst_of_not_mem {cs : List Char} (h : sep ∉ cs) : beforeFirst sep cs = cs := by
  rw [beforeFirst, cut?_eq_none_iff.mpr h]
  rfl

theorem beforeFirst_append_cons {a : List Char} (h : sep ∉ a) (b : List Char) :
    beforeFirst sep (a ++ sep :: b) = a := by
  rw [beforeFirst, cut?_append_cons h]
  rfl

theorem afterFirst_append_cons {a : List Char} (h : sep ∉ a) (b : List Char) :
    afterFirst sep (a ++ sep :: b) = b := by
  rw [afterFirst, cut?_append_cons h]
  rfl

theorem takeWhile_append_of_head {p : Char → Bool} {a b : List Char} (ha : ∀ c ∈ a, p c = true)
    (hb : b.head?.all (!p ·) = true) : (a ++ b).takeWhile p = a := by
  rw [List.takeWhile_append_of_pos ha]
  cases b with
  | nil => rw [List.takeWhile_nil, List.append_nil]
  | cons c b => rw [List.takeWhile_cons_of_neg (by simpa using hb), List.append_nil]

theorem dropWhile_append_of_head {p : Char → Bool} {a b : List Char} (ha : ∀ c ∈ a, p c = true)
    (hb : b.head?.all (!p ·) = true) : (a ++ b).dropWhile p = b := by
  rw [List.dropWhile_append_of_pos ha]
  cases b with
  | nil => rfl
  | cons c b => rw [List.dropWhile_cons_of_neg (by simpa using hb)]

theorem afterLast_of_not_mem {cs : List Char} (h : sep ∉ cs) : afterLast sep cs = cs := by
  rw [afterLast, cutLast?_eq_none_iff.mpr h]
  rfl

end

end ProxyInjector.Text
