/-!
# Blank characters and trimming

The blank characters are those that separate words in any script: the ASCII controls from tab to
carriage return and from the file separator to the unit separator, the space, and the spaces
behind ASCII.  `trim` takes them off both ends of a text; what is left neither starts nor ends
with one.
-/

namespace ProxyInjector.Text

def isBlank (c : Char) : Bool :=
  let n := c.toNat
  (9 ≤ n && n ≤ 13) || (28 ≤ n && n ≤ 32) || n == 0x85 || n == 0xA0 || n == 0x1680
    || (0x2000 ≤ n && n ≤ 0x200A) || n == 0x2028 || n == 0x2029 || n == 0x202F || n == 0x205F
    || n == 0x3000

/-- `cs` without its longest end whose characters all satisfy `p` -/
def dropTrailing (p : Char → Bool) (cs : List Char) : List Char :=
  (cs.reverse.dropWhile p).reverse

def trim (cs : List Char) : List Char := dropTrailing isBlank (cs.dropWhile isBlank)

theorem dropTrailing_nil (p : Char → Bool) : dropTrailing p [] = [] := rfl

theorem dropTrailing_concat_of_neg {p : Char → Bool} {c : Char} (h : p c = false)
    (cs : List Char) : dropTrailing p (cs ++ [c]) = cs ++ [c] := by
  simp [dropTrailing, h]

theorem trim_nil : trim [] = [] := rfl

end ProxyInjector.Text
