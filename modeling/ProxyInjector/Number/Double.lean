/-!
# Binary numbers of double precision

A number with a fractional part is kept as a sign and a multiple of a power of two, with 53 binary
digits at most and no power below `minExponent`.  What does not fit is rounded to the nearest
number that does, and what is too large is infinite.

* `roundDiv`            a quotient rounded to a whole number, a half to the even neighbour;
* `Double.ofRatio`      the number nearest to a quotient; each value has one form only, so that
                        equal numbers other than the zeros have equal forms;
* `Double.ofDecimal`    the number that decimal digits and an exponent name;
* `Double.whole?`       the integer that a number is, if it is one.
-/

namespace ProxyInjector

/-! ## rounding -/

def roundDiv (n d : Nat) : Nat :=
  let q := n / d
  let r := n % d
  if 2 * r < d ∨ (2 * r = d ∧ q % 2 = 0) then q else q + 1

/-! ## numbers -/

inductive Double where
  /-- the significand times that power of two -/
  | finite (negative : Bool) (significand : Nat) (exponent : Int)
  | infinite (negative : Bool)
deriving DecidableEq, Repr

namespace Double

/-- the number of binary digits of a significand -/
def precision : Nat := 53

def minExponent : Int := -1074

def maxExponent : Int := 971

def zero (negative : Bool) : Double := .finite negative 0 minExponent

/-- the quotient of `num` and `den` divided by a power of two, again as a quotient -/
def scaled (num den : Nat) (power : Int) : Nat × Nat :=
  if power < 0 then (num * Nat.pow 2 power.natAbs, den)
  else (num, den * Nat.pow 2 power.toNat)

/-- the power of two that leaves `precision` binary digits in front of the point of a quotient -/
def exponentFor (num den : Nat) : Int :=
  let power : Int := (num.log2 : Int) - den.log2
  let (n, d) := scaled num den power
  max (power - precision + if n < d then 0 else 1) minExponent

def ofRatio (negative : Bool) (num den : Nat) : Double :=
  if num = 0 then zero negative
  else
    let exponent := exponentFor num den
    let (n, d) := scaled num den exponent
    let significand := roundDiv n d
    let (significand, exponent) :=
      if significand = Nat.pow 2 precision then (significand / 2, exponent + 1)
      else (significand, exponent)
    if maxExponent < exponent then .infinite negative else .finite negative significand exponent

/-- decimal exponents beyond which every number is infinite, or zero -/
def maxDecimal : Int := 310
def minDecimal : Int := -330

/-- the number nearest to `digits` times that power of ten -/
def ofDecimal (negative : Bool) (digits : Nat) (power : Int) : Double :=
  let size : Int := (Nat.toDigits 10 digits).length + power
  if digits = 0 ∨ size < minDecimal then zero negative
  else if maxDecimal < size then .infinite negative
  else if power < 0 then ofRatio negative digits (Nat.pow 10 power.natAbs)
  else ofRatio negative (digits * Nat.pow 10 power.toNat) 1

/-- the number nearest to an integer, if that is not too large -/
def ofInt? (n : Int) : Option Double :=
  match ofRatio (n < 0) n.natAbs 1 with
  | .infinite _ => none
  | d => some d

def negative : Double → Bool
  | .finite negative .. => negative
  | .infinite negative => negative

def isZero : Double → Bool
  | .finite _ significand _ => significand == 0
  | .infinite _ => false

/-- the absolute value as a quotient -/
def ratio? : Double → Option (Nat × Nat)
  | .finite _ significand exponent => some (scaled significand 1 (-exponent))
  | .infinite _ => none

def signed (negative : Bool) (n : Nat) : Int := if negative then -(n : Int) else n

/-- the number without its fraction -/
def truncate? (d : Double) : Option Int := d.ratio?.map fun r => signed d.negative (r.1 / r.2)

def whole? (d : Double) : Option Int :=
  d.ratio?.bind fun r => if r.1 % r.2 = 0 then some (signed d.negative (r.1 / r.2)) else none

/-- the number nearest to the sum of a number and one -/
def succ (d : Double) : Double :=
  match d.ratio? with
  | none => d
  | some (num, den) =>
    let sum := signed d.negative num + den
    ofRatio (sum < 0) sum.natAbs den

end Double

end ProxyInjector
