import ProxyInjector.Proofs.Glob
import ProxyInjector.Proofs.Text.Context

/-!
# Patterns by their pieces

Stars cut a pattern into pieces, and a text matches if the pieces stand in it one behind the other
(`Glob.starred_iff_inOrder`).

How many stars there are between two pieces makes no difference (`Glob.Doubles.starred_iff`), and
a star more or less is a star more or less in lower case (`Glob.Doubles.lowerFrom`).
-/

namespace ProxyInjector.Glob

/-! ## pieces -/

/-- the pieces stand in the text in this order and do not overlap, the first at its start and the
last at its end -/
inductive InOrder : List (List Char) → List Char → Prop
  | last (p : List Char) : InOrder [p] p
  | next (p gap : List Char) {ps : List (List Char)} {cs : List Char} :
      InOrder ps cs → InOrder (p :: ps) (p ++ (gap ++ cs))

section
variable {p cs : List Char} {ps : List (List Char)}

theorem not_inOrder_nil : ¬ InOrder [] cs := nofun

theorem inOrder_singleton_iff : InOrder [p] cs ↔ cs = p := by
  constructor
  · rintro (_ | ⟨-, -, h⟩)
    · rfl
    · exact absurd h not_inOrder_nil
  · rintro rfl
    exact .last cs

theorem inOrder_cons_iff (hne : ps ≠ []) :
    InOrder (p :: ps) cs ↔ ∃ gap rest, cs = p ++ (gap ++ rest) ∧ InOrder ps rest := by
  constructor
  · rintro (_ | ⟨-, gap, h⟩)
    · exact absurd rfl hne
    · exact ⟨gap, _, rfl, h⟩
  · rintro ⟨gap, rest, rfl, h⟩
    exact .next p gap h

/-- the first piece takes its characters off the text -/
theorem inOrder_cons_cons_iff {c : Char} :
    InOrder ((c :: p) :: ps) cs ↔ ∃ ds, cs = c :: ds ∧ InOrder (p :: ps) ds := by
  by_cases hne : ps = []
  · subst hne
    simp only [inOrder_singleton_iff, exists_eq_right]
  · rw [inOrder_cons_iff hne]
    constructor
    · rintro ⟨gap, rest, rfl, h⟩
      exact ⟨_, rfl, .next p gap h⟩
    · rintro ⟨ds, rfl, h⟩
      obtain ⟨gap, rest, rfl, hrest⟩ := (inOrder_cons_iff hne).mp h
      exact ⟨gap, rest, rfl, hrest⟩

end

/-- the pieces do not share characters of the text -/
theorem InOrder.flatten_sublist {ps : List (List Char)} {cs : List Char} (h : InOrder ps cs) :
    ps.flatten.Sublist cs := by
  induction h with
  | last p => rw [List.flatten_singleton]
  | next p gap h ih =>
    rw [List.flatten_cons]
    exact (List.Sublist.refl p).append (ih.trans (List.sublist_append_right gap _))

/-- a pattern of stars matches the texts in which its pieces stand in order -/
theorem starred_iff_inOrder (p cs : List Char) : Starred p cs ↔ InOrder (Text.segments '*' p) cs := by
  induction p generalizing cs with
  | nil =>
    rw [Text.segments, inOrder_singleton_iff]
    constructor
    · rintro ⟨⟩
      rfl
    · rintro rfl
      exact .nil
  | cons c p ih =>
    by_cases hc : c = '*'
    · subst hc
      rw [Text.segments, if_pos rfl, starred_star_iff,
        inOrder_cons_iff (Text.segments_ne_nil '*' p)]
      simp only [ih, List.nil_append]
    · obtain ⟨s, ss, hs⟩ := List.exists_cons_of_ne_nil (Text.segments_ne_nil '*' p)
      rw [Text.segments_cons_of_ne hc hs, starred_cons_iff hc, inOrder_cons_cons_iff]
      simp only [ih, hs]

/-! ## stars side by side -/

/-- the second pattern is the first with some of its stars written twice -/
inductive Doubles : List Char → List Char → Prop
  | nil : Doubles [] []
  | keep (c : Char) {p q : List Char} : Doubles p q → Doubles (c :: p) (c :: q)
  | star {p q : List Char} : Doubles p q → Doubles ('*' :: p) ('*' :: '*' :: q)

theorem Doubles.refl (p : List Char) : Doubles p p := by
  induction p with
  | nil => exact .nil
  | cons c p ih => exact .keep c ih

theorem Doubles.append (a : List Char) {p q : List Char} (h : Doubles p q) :
    Doubles (a ++ p) (a ++ q) := by
  induction a with
  | nil => exact h
  | cons c a ih => exact .keep c ih

theorem Doubles.mem_iff {p q : List Char} (h : Doubles p q) {x : Char} : x ∈ p ↔ x ∈ q := by
  induction h with
  | nil => exact Iff.rfl
  | keep c h ih => rw [List.mem_cons, List.mem_cons, ih]
  | star h ih => simp only [List.mem_cons, ih, or_self_left]

/-- two stars match what one matches -/
theorem starred_star_star_iff {p cs : List Char} :
    Starred ('*' :: '*' :: p) cs ↔ Starred ('*' :: p) cs := by
  rw [starred_star_iff]
  constructor
  · rintro ⟨xs, ys, rfl, h⟩
    obtain ⟨xs', ys', rfl, hrest⟩ := starred_star_iff.mp h
    rw [← List.append_assoc]
    exact .run _ hrest
  · intro h
    exact ⟨[], cs, rfl, h⟩

theorem Doubles.starred_iff {p q : List Char} (h : Doubles p q) (cs : List Char) :
    Starred p cs ↔ Starred q cs := by
  induction h generalizing cs with
  | nil => exact Iff.rfl
  | keep c h ih =>
    by_cases hc : c = '*'
    · subst hc
      simp only [starred_star_iff, ih]
    · simp only [starred_cons_iff hc, ih]
  | star h ih =>
    rw [starred_star_star_iff]
    simp only [starred_star_iff, ih]

/-! ## stars in lower case -/

open Text (meetsCased lowerFrom)

theorem meetsCased_star (cs : List Char) : meetsCased ('*' :: cs) = false := by
  rw [Text.meetsCased_cons, if_neg (by decide +kernel)]
  decide +kernel

theorem Doubles.meetsCased_eq {p q : List Char} (h : Doubles p q) : meetsCased p = meetsCased q := by
  induction h with
  | nil => rfl
  | keep c h ih => exact Text.meetsCased_cons_congr rfl ih
  | star h ih => rw [meetsCased_star, meetsCased_star]

theorem Doubles.lowerFrom {p q : List Char} (h : Doubles p q) {before before' : List Char}
    (hb : meetsCased before = meetsCased before') :
    Doubles (lowerFrom before p) (lowerFrom before' q) := by
  have hstar : ∀ before after, Text.lowerChar before '*' after = ['*'] := fun _ _ => rfl
  induction h generalizing before before' with
  | nil => exact .nil
  | keep c h ih =>
    rw [Text.lowerFrom, Text.lowerFrom, Text.lowerChar_congr rfl hb h.meetsCased_eq]
    exact (ih (Text.meetsCased_cons_congr rfl hb)).append _
  | star h ih =>
    rw [Text.lowerFrom, Text.lowerFrom, Text.lowerFrom, hstar, hstar, hstar]
    exact .star (ih (by rw [meetsCased_star, meetsCased_star]))

end ProxyInjector.Glob
