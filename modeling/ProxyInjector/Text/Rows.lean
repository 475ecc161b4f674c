import ProxyInjector.Text.Digit
import ProxyInjector.Text.Segments

/-!
# Tables written as rows

A large table of characters is kept as a text: rows with semicolons between them, each a list of
code points in hex with blanks or line ends between them.
-/

namespace ProxyInjector.Text

def hexNumber (cs : List Char) : Nat := cs.foldl (fun n c => 16 * n + (hexValue? c).getD 0) 0

/-- the numbers of one row -/
def row (cs : List Char) : List Nat :=
  ((segments ' ' (cs.map fun c => if c = '\n' then ' ' else c)).filter (· ≠ [])).map hexNumber

def rows (s : String) : List (List Nat) := (segments ';' s.toList).map row

/-- the rows of three numbers -/
def triples (s : String) : List (Nat × Nat × Nat) :=
  (rows s).filterMap fun
    | [a, b, c] => some (a, b, c)
    | _ => none

end ProxyInjector.Text
