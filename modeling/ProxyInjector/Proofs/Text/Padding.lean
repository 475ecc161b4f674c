import Mathlib.Data.List.TakeWhile
import ProxyInjector.Proofs.Text.Blank
import ProxyInjector.Proofs.Text.Segments

/-!
# Texts with blanks around them

* `IsTrimmed`          a text with a blank at neither end;
* `exists_padding`     every text is `trim` of it with blanks around;
* `trim_padded`        and there is no other trimmed text of which it is that;
* `segments_intercalate`   pieces without separators, joined by separators, are found again.
-/

namespace ProxyInjector.Text

/-- all characters are blank -/
def IsPadding (cs : List Char) : Prop := ∀ c ∈ cs, isBlank c = true

structure IsTrimmed (cs : List Char) : Prop where
  head : ∀ c ∈ cs.head?, isBlank c = false
  last : ∀ c ∈ cs.getLast?, isBlank c = false

/-! ## trimming -/

theorem head?_dropWhile (p : Char → Bool) (cs : List Char) :
    ∀ c ∈ (cs.dropWhile p).head?, p c = false := by
  intro c hc
  have hnot := List.head?_dropWhile_not p cs
  rwa [Option.mem_def.mp hc] at hnot

theorem exists_padding (cs : List Char) :
    ∃ before behind, cs = before ++ trim cs ++ behind ∧ IsPadding before ∧ IsPadding behind := by
  let rest := cs.dropWhile isBlank
  refine ⟨cs.takeWhile isBlank, (rest.reverse.takeWhile isBlank).reverse, ?_, ?_, ?_⟩
  · have hrest : trim cs ++ (rest.reverse.takeWhile isBlank).reverse = rest := by
      show (rest.reverse.dropWhile isBlank).reverse ++ _ = rest
      rw [← List.reverse_append, List.takeWhile_append_dropWhile, List.reverse_reverse]
    rw [List.append_assoc, hrest, List.takeWhile_append_dropWhile]
  · exact fun c hc => List.mem_takeWhile_imp hc
  · exact fun c hc => List.mem_takeWhile_imp (List.mem_reverse.mp hc)

theorem isTrimmed_trim (cs : List Char) : IsTrimmed (trim cs) := by
  constructor
  · intro c hc
    -- the start of what is trimmed at its end is the start of the whole
    obtain ⟨behind, hbehind⟩ := prefix_dropTrailing isBlank (cs.dropWhile isBlank)
    have hstart : (dropTrailing isBlank (cs.dropWhile isBlank)).head? = some c := hc
    refine head?_dropWhile isBlank cs c ?_
    rw [← hbehind, List.head?_append, hstart]
    rfl
  · intro c hc
    rw [trim, dropTrailing, List.getLast?_reverse] at hc
    exact head?_dropWhile isBlank _ c hc

theorem trim_of_padding {cs : List Char} (h : IsPadding cs) : trim cs = [] := by
  have hdrop : cs.dropWhile isBlank = [] := List.dropWhile_eq_nil_iff.mpr h
  rw [trim, hdrop, dropTrailing_nil]

theorem trim_padded {before cs behind : List Char} (hbefore : IsPadding before)
    (hcs : IsTrimmed cs) (hbehind : IsPadding behind) : trim (before ++ cs ++ behind) = cs := by
  by_cases hne : cs = []
  · subst hne
    rw [List.append_nil]
    exact trim_of_padding (List.forall_mem_append.mpr ⟨hbefore, hbehind⟩)
  · have hhead : (cs ++ behind).head?.all (!isBlank ·) = true := by
      obtain ⟨c, cs, rfl⟩ := List.exists_cons_of_ne_nil hne
      simpa using hcs.head c rfl
    have hlast : cs.reverse.head?.all (!isBlank ·) = true := by
      rw [List.head?_reverse, Option.all_eq_true]
      intro c hc
      rw [hcs.last c hc]
      rfl
    have hreverse : ∀ c ∈ behind.reverse, isBlank c = true :=
      fun c hc => hbehind c (List.mem_reverse.mp hc)
    rw [trim, List.append_assoc, dropWhile_append_of_head hbefore hhead, dropTrailing,
      List.reverse_append, dropWhile_append_of_head hreverse hlast, List.reverse_reverse]

/-! ## joining -/

theorem segments_intercalate {sep : Char} {pieces : List (List Char)} (hne : pieces ≠ [])
    (h : ∀ p ∈ pieces, sep ∉ p) : segments sep ([sep].intercalate pieces) = pieces := by
  have hpieces : pieces.map (segments sep) = pieces.map ([·]) :=
    List.map_congr_left fun p hp => segments_of_not_mem (h p hp)
  rw [segments_intercalate_flatMap hne, List.flatMap_def, hpieces, ← List.flatMap_def,
    List.flatMap_singleton']

end ProxyInjector.Text
