import ProxyInjector.Proofs.Text.Case

/-!
# Lower case and what stands around

Only a sigma looks at its surroundings, and it sees no more of them than whether the next character
on either side is cased, those aside that do not count (`meetsCased`).  So the letters of ASCII may
be in either case, in a text and around it (`lowerFrom_congr`).
-/

namespace ProxyInjector.Text

/-! ## letters of ASCII -/

/-- characters that are one letter in either case are the same, or letters of ASCII -/
theorem eq_or_isAlpha_of_toLower_eq {c d : Char} (h : c.toLower = d.toLower) :
    c = d ∨ c.isAlpha = true ∧ d.isAlpha = true := by
  have hupper : ∀ {x : Char}, x.isUpper = true → x.isAlpha = true := by
    intro x hx
    rw [Char.isAlpha, hx]
    rfl
  have halpha : ∀ {x y : Char}, x.isUpper = true → x.toLower = y.toLower → y.isAlpha = true := by
    intro x y hx he
    by_cases hy : y.isUpper = true
    · exact hupper hy
    · rw [Char.toLower_eq_of_not_isUpper hy] at he
      rw [← he, Char.isAlpha, Char.isLower_toLower_eq_isAlpha, hupper hx, Bool.or_true]
  by_cases hc : c.isUpper = true
  · exact .inr ⟨hupper hc, halpha hc h⟩
  · by_cases hd : d.isUpper = true
    · exact .inr ⟨halpha hd h.symm, hupper hd⟩
    · rw [Char.toLower_eq_of_not_isUpper hc, Char.toLower_eq_of_not_isUpper hd] at h
      exact .inl h

theorem cased_of_isAlpha {c : Char} (h : c.isAlpha = true) :
    isCased c = true ∧ isCaseIgnorable c = false := by
  have hall : ∀ n < 123, 65 ≤ n ∧ n ≤ 90 ∨ 97 ≤ n →
      inRanges casedRanges n = true ∧ inRanges caseIgnorableRanges n = false := by
    decide +kernel
  have := toNat_of_isAlpha h
  exact hall c.toNat (by omega) (by omega)

/-! ## what a sigma sees -/

/-- the first character that counts is cased -/
def meetsCased (cs : List Char) : Bool := (cs.dropWhile isCaseIgnorable).head?.any isCased

theorem meetsCased_cons (c : Char) (cs : List Char) :
    meetsCased (c :: cs) = if isCaseIgnorable c then meetsCased cs else isCased c := by
  rw [meetsCased, List.dropWhile_cons]
  split <;> rfl

/-- one character is lowered by itself, but for what a sigma sees -/
theorem lowerChar_congr {before before' after after' : List Char} {c d : Char}
    (h : c.toLower = d.toLower) (hb : meetsCased before = meetsCased before')
    (ha : meetsCased after = meetsCased after') :
    lowerChar before c after = lowerChar before' d after' := by
  have hends : endsWord before after = endsWord before' after' := by
    show (meetsCased before && !meetsCased after) = (meetsCased before' && !meetsCased after')
    rw [hb, ha]
  rcases eq_or_isAlpha_of_toLower_eq h with rfl | ⟨hc, hd⟩
  · rw [lowerChar, lowerChar, hends]
  · have hascii : ∀ {x : Char}, x.isAlpha = true → x.toNat < 0x80 := by
      intro x hx
      have := toNat_of_isAlpha hx
      omega
    rw [lowerChar, lowerChar, if_pos (hascii hc), if_pos (hascii hd), h]

/-! ## letters in either case -/

theorem meetsCased_cons_congr {c d : Char} {cs ds : List Char} (h : c.toLower = d.toLower)
    (hs : meetsCased cs = meetsCased ds) : meetsCased (c :: cs) = meetsCased (d :: ds) := by
  rw [meetsCased_cons, meetsCased_cons, hs]
  rcases eq_or_isAlpha_of_toLower_eq h with rfl | ⟨hc, hd⟩
  · rfl
  · obtain ⟨hcased, hignorable⟩ := cased_of_isAlpha hc
    obtain ⟨hcased', hignorable'⟩ := cased_of_isAlpha hd
    rw [hcased, hignorable, hcased', hignorable']

theorem meetsCased_congr {cs ds : List Char} (h : cs.map Char.toLower = ds.map Char.toLower) :
    meetsCased cs = meetsCased ds := by
  induction cs generalizing ds with
  | nil =>
    rw [List.map_eq_nil_iff.mp h.symm]
  | cons c cs ih =>
    cases ds with
    | nil => cases h
    | cons d ds =>
      obtain ⟨hc, hs⟩ := List.cons.inj h
      exact meetsCased_cons_congr hc (ih hs)

/-- letters of ASCII have one lower case, and so have the characters around them -/
theorem lowerFrom_congr {before before' cs ds : List Char}
    (hb : meetsCased before = meetsCased before')
    (h : cs.map Char.toLower = ds.map Char.toLower) : lowerFrom before cs = lowerFrom before' ds := by
  induction cs generalizing before before' ds with
  | nil =>
    rw [List.map_eq_nil_iff.mp h.symm]
    rfl
  | cons c cs ih =>
    cases ds with
    | nil => cases h
    | cons d ds =>
      obtain ⟨hc, hs⟩ := List.cons.inj h
      rw [lowerFrom, lowerFrom, lowerChar_congr hc hb (meetsCased_congr hs),
        ih (meetsCased_cons_congr hc hb) hs]

end ProxyInjector.Text
