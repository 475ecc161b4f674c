import ProxyInjector.Proofs.Text.Ascii
import ProxyInjector.Text.Case

/-!
# What lower case changes

Lower case is made of small letters and of characters behind ASCII, so that any other character of
it stood in the text before (`mem_of_mem_lowerFrom`), and on ASCII it changes nothing a second
time.
-/

namespace ProxyInjector.Text

/-! ## one character -/

theorem target_of_mem_lowerRuns : ∀ r ∈ lowerRuns, 0x60 < r.target := by decide +kernel

theorem applyRuns_lowerRuns (n : Nat) :
    applyRuns lowerRuns n = n ∨ 0x60 < applyRuns lowerRuns n := by
  rw [applyRuns]
  cases h : lowerRuns.findSome? (·.moved? n) with
  | none => exact .inl rfl
  | some m =>
    right
    obtain ⟨r, hr, hm⟩ := List.exists_of_findSome?_eq_some h
    obtain ⟨-, hm⟩ := Option.ite_none_right_eq_some.mp hm
    have := target_of_mem_lowerRuns r hr
    rw [Option.getD_some, ← Option.some.inj hm]
    omega

theorem eq_of_mem_lowerChar {x c : Char} {before after : List Char} (h0 : x ≠ '\x00')
    (hx : x.toNat ≤ 0x60) (h : x ∈ lowerChar before c after) : x = c := by
  rw [lowerChar] at h
  split at h
  · have hl := List.mem_singleton.mp h
    by_cases hc : c.isUpper = true
    · have := (toNat_toLower_of_isUpper hc).1
      rw [hl] at hx
      omega
    · rw [hl, Char.toLower_eq_of_not_isUpper hc]
  split at h
  · split at h <;> rw [List.mem_singleton.mp h] at hx <;> exact absurd hx (by decide)
  split at h
  · rcases List.mem_cons.mp h with rfl | h
    · exact absurd hx (by decide)
    · rw [List.mem_singleton.mp h] at hx
      exact absurd hx (by decide)
  · have hm := List.mem_singleton.mp h
    rcases applyRuns_lowerRuns c.toNat with hn | hn
    · rw [hm, hn, Char.ofNat_toNat]
    · -- no code point at all, or one that is too large
      have hzero : x.toNat = 0 := by
        have ht := Char.toNat_ofNat (applyRuns lowerRuns c.toNat)
        rw [← hm] at ht
        split at ht
        · omega
        · exact ht
      rw [← Char.ofNat_toNat x, hzero] at h0
      exact absurd rfl h0

/-! ## texts -/

theorem mem_of_mem_lowerFrom {x : Char} (h0 : x ≠ '\x00') (hx : x.toNat ≤ 0x60)
    {before cs : List Char} (h : x ∈ lowerFrom before cs) : x ∈ cs := by
  induction cs generalizing before with
  | nil => exact h
  | cons c cs ih =>
    rw [lowerFrom] at h
    rcases List.mem_append.mp h with h | h
    · rw [eq_of_mem_lowerChar h0 hx h]
      exact List.mem_cons_self
    · exact List.mem_cons_of_mem _ (ih h)

theorem lowerFrom_lowerFrom {cs : List Char} (h : ∀ c ∈ cs, c.toNat < 0x80) :
    lowerFrom [] (lowerFrom [] cs) = lowerFrom [] cs := by
  have hlower : ∀ c ∈ cs.map Char.toLower, c.toNat < 0x80 := by
    intro c hc
    obtain ⟨d, hd, rfl⟩ := List.mem_map.mp hc
    by_cases hu : d.isUpper = true
    · have := (toNat_toLower_of_isUpper hu).2
      omega
    · rw [Char.toLower_eq_of_not_isUpper hu]
      exact h d hd
  rw [lowerFrom_ascii cs h, lowerFrom_ascii _ hlower, List.map_map]
  exact List.map_congr_left fun c _ => Char.toLower_toLower_eq_toLower c

end ProxyInjector.Text
