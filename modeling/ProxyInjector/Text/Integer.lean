import ProxyInjector.Text.Blank
import ProxyInjector.Text.Digit

/-!
# Integers in decimal

An integer is written with an optional sign and decimal digits of any script; single underscores
may stand between two digits and blanks around the whole.  More than `maxDigits` digits are
refused.  Among the ASCII controls only tab to carriage return count as blanks here.
-/

namespace ProxyInjector.Text

/-- the largest number of digits that is read -/
def maxDigits : Nat := 4300

def isNumberBlank (c : Char) : Bool := isBlank c && !(28 ≤ c.toNat && c.toNat ≤ 31)

/-- the values of digits of which single underscores may separate two; `pending` says that an
underscore or the sign has just been read, so that a digit has to follow -/
def digitsFrom? (pending : Bool) : List Char → Option (List Nat)
  | [] => if pending then none else some []
  | c :: cs =>
    if c = '_' then if pending then none else digitsFrom? true cs
    else (digit? c).bind fun d => (digitsFrom? false cs).map (d :: ·)

def ofDigits (ds : List Nat) : Nat := ds.foldl (fun n d => 10 * n + d) 0

def natural? (cs : List Char) : Option Nat :=
  (digitsFrom? true cs).bind fun ds => if ds.length ≤ maxDigits then some (ofDigits ds) else none

def integer? (cs : List Char) : Option Int :=
  match dropTrailing isNumberBlank (cs.dropWhile isNumberBlank) with
  | '-' :: ds => (natural? ds).map fun n => -(n : Int)
  | '+' :: ds => (natural? ds).map Int.ofNat
  | ds => (natural? ds).map Int.ofNat

end ProxyInjector.Text
