import ProxyInjector.Number.Double

/-!
# Numbers in decimal

* `Double.shortest?`   the fewest decimal digits that read back, and of these the nearest;
* `Double.chars`       a number by its shortest digits: positionally from 0.0001 up to below
                       10 ^ 16, with a zero behind the point if nothing else stands there, and
                       with an exponent of at least two digits otherwise;
* `fixed`, `scientific`, `general`
                       a quotient with a given number of digits behind the point, behind the first
                       digit, or in all.  All digits are exact up to the last, which is rounded.
-/

namespace ProxyInjector

namespace Decimal

def digitsOf (n : Nat) : List Char := Nat.toDigits 10 n

def zeros (n : Nat) : List Char := List.replicate n '0'

/-- `cs` filled up to `size` digits -/
def atLeast (size : Nat) (cs : List Char) : List Char := zeros (size - cs.length) ++ cs

def withoutZeros (cs : List Char) : List Char := (cs.reverse.dropWhile (· == '0')).reverse

/-- a quotient divided by a power of ten -/
def shifted (num den : Nat) (power : Int) : Nat × Nat :=
  if power < 0 then (num * Nat.pow 10 power.natAbs, den)
  else (num, den * Nat.pow 10 power.toNat)

/-- the power of ten of the first digit of a quotient above zero -/
def leadingPower (num den : Nat) : Int :=
  let power : Int := ((digitsOf num).length : Int) - (digitsOf den).length
  let (n, d) := shifted num den power
  if n < d then power - 1 else power

def exponentChars (power : Int) : List Char :=
  'e' :: (if power < 0 then '-' else '+') :: atLeast 2 (digitsOf power.natAbs)

end Decimal

open Decimal

/-! ## the shortest digits -/

namespace Double

/-- the digits of `n` as those of a number that starts at a power of ten; the number counts only
if it is the one that is looked for -/
def readsBack (d : Double) (n : Nat) (power : Int) : Bool := ofDecimal d.negative n power == d

/-- the neighbours of a quotient on a decimal grid that read back, the nearer first -/
def onGrid? (d : Double) (num den : Nat) (power : Int) : Option Nat :=
  let (n, m) := shifted num den power
  let low := n / m
  let near := roundDiv n m
  let far := if near = low then low + 1 else low
  if d.readsBack near power then some near
  else if d.readsBack far power then some far
  else none

/-- the digits of the absolute value, and the power of ten of the first -/
def shortest? (d : Double) : Option (List Char × Int) :=
  d.ratio?.bind fun (num, den) =>
    let first := leadingPower num den
    (List.range 17).findSome? fun (more : Nat) =>
      (d.onGrid? num den (first - more)).map fun n =>
        let ds := digitsOf n
        (withoutZeros ds, first - more + (ds.length - 1 : Nat))

/-- the digits `ds`, the first of them at that power of ten, around the point -/
def positional (ds : List Char) (power : Int) : List Char :=
  if power < 0 then '0' :: '.' :: (zeros (power.natAbs - 1) ++ ds)
  else
    let whole := power.toNat + 1
    if ds.length ≤ whole then ds ++ zeros (whole - ds.length) ++ ['.', '0']
    else ds.take whole ++ '.' :: ds.drop whole

def withExponent (ds : List Char) (power : Int) : List Char :=
  ds.take 1 ++ (if ds.length ≤ 1 then [] else '.' :: ds.drop 1) ++ exponentChars power

def unsignedChars (d : Double) : List Char :=
  if d.isZero then ['0', '.', '0']
  else match d.shortest? with
  | none => ['i', 'n', 'f']
  | some (ds, power) =>
    if -5 < power ∧ power < 16 then positional ds power else withExponent ds power

def chars (d : Double) : List Char := if d.negative then '-' :: d.unsignedChars else d.unsignedChars

end Double

/-! ## a given number of digits -/

namespace Decimal

/-- whole part and fraction; the point may stand even if nothing follows -/
def withPoint (always : Bool) (whole fraction : List Char) : List Char :=
  if fraction = [] then whole ++ (if always then ['.'] else []) else whole ++ '.' :: fraction

def fixed (always : Bool) (places num den : Nat) : List Char :=
  let ds := atLeast (places + 1) (digitsOf (roundDiv (num * Nat.pow 10 places) den))
  withPoint always (ds.take (ds.length - places)) (ds.drop (ds.length - places))

/-- the `places + 1` leading digits and the power of ten of the first -/
def leading (places num den : Nat) : List Char × Int :=
  if num = 0 then (zeros (places + 1), 0)
  else
    let power := leadingPower num den
    let (n, d) := shifted num den (power - places)
    let ds := digitsOf (roundDiv n d)
    if ds.length ≤ places + 1 then (ds, power) else (ds.dropLast, power + 1)

def scientific (always : Bool) (places num den : Nat) : List Char :=
  let (ds, power) := leading places num den
  withPoint always (ds.take 1) (ds.drop 1) ++ exponentChars power

/-- the shorter of the two forms, with `digits` digits in all; zeros at the end of the fraction
are dropped unless the point always stands -/
def general (always : Bool) (digits num den : Nat) : List Char :=
  let digits := max digits 1
  let (ds, power) := leading (digits - 1) num den
  let kept (fraction : List Char) := if always then fraction else withoutZeros fraction
  if -4 ≤ power ∧ power < digits then
    if power < 0 then withPoint always ['0'] (kept (zeros (power.natAbs - 1) ++ ds))
    else withPoint always (ds.take (power.toNat + 1)) (kept (ds.drop (power.toNat + 1)))
  else withPoint always (ds.take 1) (kept (ds.drop 1)) ++ exponentChars power

end Decimal

end ProxyInjector
