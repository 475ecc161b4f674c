import ProxyInjector.Text.NormalTable
import ProxyInjector.Text.Rows

/-!
# The normal form of a text

Many characters are forms of others: wide and narrow letters, ligatures, letters in circles,
letters with accents.  Two texts say the same if they have one normal form, which is made in
three steps, here on code points.

* `decompose`   a character is taken apart into plain characters and marks;
* `order`       marks behind one character are sorted by their class, and those of one class stay
                in order;
* `compose`     a character and a mark are put together where there is a character for both and
                no mark of the same class stands between them.

The syllables of one script are put together from two or three letters by a rule of their own
(`syllable?`).
-/

namespace ProxyInjector.Text

/-! ## the tables -/

/-- a character, and the character and the mark it is composed of -/
abbrev Composite : Type := Nat × Nat × Nat

def composites : List Composite := triples compositeText

def laterComposites : List Composite := triples laterText

/-- plain characters for characters that are forms of them -/
def equivalents : List (Nat × List Nat) :=
  (rows equivalentText).filterMap fun
    | c :: plain => some (c, plain)
    | [] => none

def equivalentSpans : List (Nat × Nat × Nat) := triples equivalentRuns

def markSpans : List (Nat × Nat × Nat) := triples markText

/-- the class of a mark, and 0 for all other characters -/
def markClass (n : Nat) : Nat :=
  if n < 0x300 then 0
  else ((markSpans.find? fun r => r.1 ≤ n && n ≤ r.2.1).map (·.2.2)).getD 0

/-! ## syllables -/

def isSyllable (n : Nat) : Bool := 0xAC00 ≤ n && n < 0xAC00 + 11172

/-- the letters of a syllable -/
def syllableParts (n : Nat) : List Nat :=
  let i := n - 0xAC00
  let two := [0x1100 + i / 588, 0x1161 + i % 588 / 28]
  if i % 28 = 0 then two else two ++ [0x11A7 + i % 28]

/-- the syllable of two letters, or of a syllable of two letters and a third -/
def syllable? (a b : Nat) : Option Nat :=
  if 0x1100 ≤ a ∧ a < 0x1113 ∧ 0x1161 ≤ b ∧ b < 0x1176 then
    some (0xAC00 + (a - 0x1100) * 588 + (b - 0x1161) * 28)
  else if isSyllable a ∧ (a - 0xAC00) % 28 = 0 ∧ 0x11A7 < b ∧ b < 0x11C3 then
    some (a + (b - 0x11A7))
  else none

/-! ## taking apart -/

/-- what is left of `n` without the marks it is composed with, and those marks in front of
`marks`; one pass does, as the parts of a character stand behind it -/
def apart : List Composite → Nat → List Nat → Nat × List Nat
  | [], n, marks => (n, marks)
  | (c, a, mark) :: rs, n, marks => if n = c then apart rs a (mark :: marks) else apart rs n marks

def plain (n : Nat) : List Nat :=
  match equivalentSpans.find? fun r => r.1 ≤ n && n ≤ r.2.1 with
  | some (low, _, target) => [target + (n - low)]
  | none => (equivalents.lookup n).getD [n]

def decompose (n : Nat) : List Nat :=
  if n < 0xA0 then [n]
  else if isSyllable n then syllableParts n
  else
    let (head, marks) := apart composites n []
    plain head ++ marks

/-! ## sorting marks -/

/-- `c` in front of `cs`, behind the marks of lower classes there -/
def placeMark (c : Nat) : List Nat → List Nat
  | [] => [c]
  | d :: ds =>
    if 0 < markClass d ∧ markClass d < markClass c then d :: placeMark c ds else c :: d :: ds

def order (cs : List Nat) : List Nat := cs.foldr placeMark []

/-! ## putting together -/

def composite? (a mark : Nat) : Option Nat :=
  match syllable? a mark with
  | some s => some s
  | none =>
    let isOf (r : Composite) : Bool := r.2.1 == a && r.2.2 == mark
    match composites.find? isOf with
    | some r => some r.1
    | none => (laterComposites.find? isOf).map (·.1)

/-- `c` with the marks that it takes up, and what stays behind it; `last` is the class of the mark
that stayed last, 0 if none did -/
def takeUp (c last : Nat) : List Nat → Nat × List Nat
  | [] => (c, [])
  | d :: ds =>
    if last ≠ 0 ∧ markClass d = 0 then (c, d :: ds)
    else if last ≠ 0 ∧ markClass d ≤ last then
      let (c, rest) := takeUp c last ds
      (c, d :: rest)
    else match composite? c d with
      | some c => takeUp c last ds
      | none =>
        if markClass d = 0 then (c, d :: ds)
        else
          let (c, rest) := takeUp c (markClass d) ds
          (c, d :: rest)

theorem takeUp_length_le (c last : Nat) (ds : List Nat) :
    (takeUp c last ds).2.length ≤ ds.length := by
  fun_induction takeUp c last ds <;> simp_all
  omega

def compose : List Nat → List Nat
  | [] => []
  | c :: cs => (takeUp c 0 cs).1 :: compose (takeUp c 0 cs).2
termination_by cs => cs.length
decreasing_by exact Nat.lt_succ_of_le (takeUp_length_le c 0 cs)

def normal (cs : List Nat) : List Nat := compose (order (cs.flatMap decompose))

end ProxyInjector.Text
