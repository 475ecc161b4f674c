import ProxyInjector.Text.Blank

/-!
# Trimming behind a start without blanks

What stands at the start of a text and holds no blank is not touched by `trim`, which then only
takes blanks off the rest (`trim_append`).
-/

namespace ProxyInjector.Text

theorem prefix_dropTrailing (p : Char → Bool) (cs : List Char) : dropTrailing p cs <+: cs := by
  have h : (cs.reverse.dropWhile p).reverse <+: cs.reverse.reverse :=
    List.reverse_prefix.mpr (List.dropWhile_suffix p)
  rwa [List.reverse_reverse] at h

theorem dropTrailing_of_forall {p : Char → Bool} {cs : List Char} (h : ∀ c ∈ cs, p c = false) :
    dropTrailing p cs = cs := by
  rcases List.eq_nil_or_concat cs with rfl | ⟨a, c, rfl⟩
  · rfl
  · rw [List.concat_eq_append] at h ⊢
    exact dropTrailing_concat_of_neg (h c (by simp)) a

theorem dropTrailing_append {p : Char → Bool} {a : List Char} (h : ∀ c ∈ a, p c = false)
    (b : List Char) : dropTrailing p (a ++ b) = a ++ dropTrailing p b := by
  rcases hb : b.reverse.dropWhile p with _ | ⟨c, cs⟩
  · have ha : (a.reverse.dropWhile p).reverse = a := dropTrailing_of_forall h
    rw [dropTrailing, dropTrailing, List.reverse_append, List.dropWhile_append, hb]
    simpa using ha
  · rw [dropTrailing, dropTrailing, List.reverse_append, List.dropWhile_append, hb]
    simp

theorem trim_append {a : List Char} (ha : a ≠ []) (h : ∀ c ∈ a, isBlank c = false)
    (b : List Char) : trim (a ++ b) = a ++ dropTrailing isBlank b := by
  obtain ⟨c, a, rfl⟩ := List.exists_cons_of_ne_nil ha
  rw [trim, List.cons_append, List.dropWhile_cons_of_neg (by simp [h c List.mem_cons_self]),
    ← List.cons_append, dropTrailing_append h]

theorem trim_of_forall {cs : List Char} (h : ∀ c ∈ cs, isBlank c = false) : trim cs = cs := by
  by_cases hne : cs = []
  · rw [hne, trim_nil]
  · have htrim := trim_append hne h []
    rwa [dropTrailing_nil, List.append_nil] at htrim

theorem mem_of_mem_trim {c : Char} {cs : List Char} (h : c ∈ trim cs) : c ∈ cs :=
  (List.dropWhile_suffix _).subset ((prefix_dropTrailing _ _).subset h)

end ProxyInjector.Text
