/-!
# Sets of characters given by ranges

A property of characters that a standard fixes by a table is a list of closed ranges of code
points.  `inRanges rs n` says that `n` lies in one of them.
-/

namespace ProxyInjector.Text

def inRanges (rs : List (Nat × Nat)) (n : Nat) : Bool :=
  rs.any fun r => r.1 ≤ n && n ≤ r.2

end ProxyInjector.Text
