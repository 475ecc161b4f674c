import ProxyInjector.Proofs.Text.Ascii
import ProxyInjector.Proofs.Text.Blank
import ProxyInjector.Text.Integer

/-!
# Printed numbers read again

A natural number in decimal is written in ASCII digits and nothing else, so that there is neither a
blank nor a sign nor an underscore to look at.

* `digitsFrom?_of_isDigit`   ASCII digits are read one by one;
* `integer?_toDigits`        a printed number is read as itself, unless it has too many digits.
-/

namespace ProxyInjector.Text

/-! ## single digits -/

variable {c : Char}

theorem digit?_of_isDigit (h : c.isDigit = true) : digit? c = some (c.toNat - '0'.toNat) := by
  obtain ⟨hlow, hhigh⟩ := toNat_of_isDigit h
  -- the zero of ASCII is the first of all zeros
  have hzero : digitZeros.find? (fun z => z ≤ c.toNat && c.toNat < z + 10) = some 0x30 := by
    refine List.find?_cons_of_pos ?_
    rw [Bool.and_eq_true, decide_eq_true_eq, decide_eq_true_eq]
    omega
  rw [digit?, hzero]
  rfl

theorem isNumberBlank_of_isDigit (h : c.isDigit = true) : isNumberBlank c = false := by
  obtain ⟨hlow, hhigh⟩ := toNat_of_isDigit h
  simp only [isNumberBlank, isBlank, Bool.and_eq_false_iff, Bool.or_eq_false_iff,
    beq_eq_false_iff_ne, decide_eq_false_iff_not]
  omega

theorem ne_of_isDigit (h : c.isDigit = true) {d : Char} (hd : d.isDigit = false) : c ≠ d := by
  rintro rfl
  rw [h] at hd
  cases hd

/-! ## rows of digits -/

/-- a digit has to follow only where there is one -/
theorem digitsFrom?_of_isDigit {cs : List Char} (h : ∀ c ∈ cs, c.isDigit = true) {pending : Bool}
    (hpending : cs = [] → pending = false) :
    digitsFrom? pending cs = some (cs.map fun c => c.toNat - '0'.toNat) := by
  induction cs generalizing pending with
  | nil =>
    rw [hpending rfl]
    rfl
  | cons c cs ih =>
    obtain ⟨hc, hcs⟩ := List.forall_mem_cons.mp h
    rw [digitsFrom?, if_neg (ne_of_isDigit hc rfl), digit?_of_isDigit hc, Option.bind_some,
      ih hcs fun _ => rfl]
    rfl

theorem ofDigits_map (cs : List Char) :
    ofDigits (cs.map fun c => c.toNat - '0'.toNat) = Nat.ofDigitChars 10 cs 0 := by
  rw [ofDigits, List.foldl_map, Nat.ofDigitChars_eq_foldl]

/-! ## printed numbers -/

variable (n : Nat)

theorem isDigit_of_mem_toDigits (h : c ∈ Nat.toDigits 10 n) : c.isDigit = true :=
  Nat.isDigit_of_mem_toDigits (by omega) (by omega) h

theorem natural?_toDigits :
    natural? (Nat.toDigits 10 n) = if n < 10 ^ maxDigits then some n else none := by
  have hdigits : digitsFrom? true (Nat.toDigits 10 n)
      = some ((Nat.toDigits 10 n).map fun c => c.toNat - '0'.toNat) :=
    digitsFrom?_of_isDigit (fun c => isDigit_of_mem_toDigits n)
      fun hnil => absurd hnil Nat.toDigits_ne_nil
  have hlength : (Nat.toDigits 10 n).length ≤ maxDigits ↔ n < 10 ^ maxDigits :=
    Nat.length_toDigits_le_iff (by omega) (by decide)
  rw [natural?, hdigits, Option.bind_some, List.length_map, ofDigits_map,
    Nat.ofDigitChars_ten_toDigits]
  simp only [hlength]

theorem integer?_toDigits :
    integer? (Nat.toDigits 10 n) = if n < 10 ^ maxDigits then some (n : Int) else none := by
  have hblank : ∀ c ∈ Nat.toDigits 10 n, isNumberBlank c = false :=
    fun c hc => isNumberBlank_of_isDigit (isDigit_of_mem_toDigits n hc)
  have htrim : dropTrailing isNumberBlank ((Nat.toDigits 10 n).dropWhile isNumberBlank)
      = Nat.toDigits 10 n := by
    rw [List.dropWhile_eq_self_iff.mpr fun hpos => by simp [hblank _ (List.getElem_mem hpos)],
      dropTrailing_of_forall hblank]
  have hsign {sign : Char} {cs : List Char} (h : Nat.toDigits 10 n = sign :: cs) :
      sign.isDigit = true := isDigit_of_mem_toDigits n (h ▸ List.mem_cons_self)
  rw [integer?, htrim]
  split
  · next h => exact absurd (hsign h) (by decide)
  · next h => exact absurd (hsign h) (by decide)
  · rw [natural?_toDigits]
    split <;> rfl

end ProxyInjector.Text
