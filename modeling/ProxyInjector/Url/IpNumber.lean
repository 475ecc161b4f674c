import ProxyInjector.Text.Segments
import ProxyInjector.Url.Percent

/-!
# IP addresses as numbers

An address of version 4 may be given by one to four numbers joined by dots.  Each is written in
decimal, in octal behind a zero or in hex behind `0x`.  The last one fills all the bytes that the
numbers before it leave, a byte for each of them.
-/

namespace ProxyInjector.Url

def digitsIn? (base : Nat) (cs : List Char) : Option Nat :=
  (cs.mapM fun c => (Text.hexValue? c).filter (· < base)).map fun ds =>
    ds.foldl (fun n d => base * n + d) 0

def number? : List Char → Option Nat
  | [] => none
  | '0' :: x :: cs =>
    if x = 'x' ∨ x = 'X' then if cs = [] then none else digitsIn? 16 cs
    else digitsIn? 8 (x :: cs)
  | cs => digitsIn? 10 cs

/-- the address that numbers make of `n` bytes -/
def fill? : (n : Nat) → List Nat → Option Nat
  | 0, _ => none
  | _ + 1, [] => none
  | n + 1, [last] => if last < Nat.pow 256 (n + 1) then some last else none
  | n + 1, byte :: rest => if byte < 256 then (fill? n rest).map (byte * Nat.pow 256 n + ·) else none

def addressOf? (host : List Char) : Option Nat :=
  ((Text.segments '.' host).mapM number?).bind (fill? 4)

/-- the address by which a machine knows itself -/
def loopback : Nat := 0x7F000001

end ProxyInjector.Url
