/-!
# Texts of all scripts in letters, digits and hyphens

`Punycode.encode` keeps the ASCII of a text, and behind a hyphen it says which characters were
left out and where they stood.  They are put back in the order of their codes, from left to right,
and for each a number counts the codes and places that are passed on the way to it.

The numbers are written in base 36 without separators, the lowest digit first: a digit below the
threshold of its place ends a number.  The thresholds depend on a bias, which follows the size of
the numbers written so far.
-/

namespace ProxyInjector.Text.Punycode

/-- letters for the digits below 26, digits for the others -/
def digit (n : Nat) : Char := Char.ofNat (if n < 26 then 0x61 + n else 0x30 + (n - 26))

/-- the threshold of a place, of which the first is 36 and each next one 36 more -/
def threshold (bias place : Nat) : Nat := min 26 (max 1 (place - bias))

theorem threshold_pos (bias place : Nat) : 0 < threshold bias place := by
  unfold threshold; omega

/-- the digits of `n` from a place on -/
def digitsFrom (bias place n : Nat) : List Char :=
  let t := threshold bias place
  if n < t then [digit n]
  else digit (t + (n - t) % (36 - t)) :: digitsFrom bias (place + 36) ((n - t) / (36 - t))
termination_by n
decreasing_by
  have hpos := threshold_pos bias place
  exact Nat.lt_of_le_of_lt (Nat.div_le_self _ _) (by omega)

def digits (bias n : Nat) : List Char := digitsFrom bias 36 n

/-- a number brought down to the size of two digits, and how many digits that took, by 36 -/
def shrink (n place : Nat) : Nat × Nat :=
  if 455 < n then shrink (n / 35) (place + 36) else (n, place)
termination_by n
decreasing_by exact Nat.div_lt_self (by omega) (by omega)

/-- the bias behind the number `n`, with `count` characters in place -/
def nextBias (n count : Nat) (isFirst : Bool) : Nat :=
  let n := if isFirst then n / 700 else n / 2
  let (n, place) := shrink (n + n / count) 0
  place + 36 * n / (n + 38)

/-- what has been written so far -/
structure Progress where
  /-- how many characters are in place -/
  count : Nat
  bias : Nat
  /-- what has been passed since the last number -/
  passed : Nat
  isFirst : Bool
  written : List Char

/-- one character passed on the way through the text for the characters of one code -/
def Progress.pass (p : Progress) (code : Nat) (c : Char) : Progress :=
  if c.toNat < code then { p with passed := p.passed + 1 }
  else if c.toNat = code then
    { count := p.count + 1
      bias := nextBias p.passed (p.count + 1) p.isFirst
      passed := 0
      isFirst := false
      written := p.written ++ digits p.bias p.passed }
  else p

/-- the characters of the codes, which increase, put in place one code after the other; `next` is
the code that is looked at next -/
def place (cs : List Char) (next : Nat) : List Nat → Progress → Progress
  | [], p => p
  | code :: codes, p =>
    let p := { p with passed := p.passed + (code - next) * (p.count + 1) }
    let p := cs.foldl (fun p c => p.pass code c) p
    place cs (code + 1) codes { p with passed := p.passed + 1 }

/-- the codes behind ASCII, each once, in order -/
def codes (cs : List Char) : List Nat :=
  (((cs.map Char.toNat).filter (0x80 ≤ ·)).eraseDups).mergeSort fun a b => decide (a ≤ b)

def encode (cs : List Char) : List Char :=
  let kept := cs.filter (·.toNat < 0x80)
  let placed := place cs 0x80 (codes cs) ⟨kept.length, 72, 0, true, []⟩
  if kept = [] then placed.written else kept ++ '-' :: placed.written

end ProxyInjector.Text.Punycode
