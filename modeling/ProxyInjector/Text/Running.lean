import ProxyInjector.Text.Blank
import ProxyInjector.Text.Digit
import ProxyInjector.Text.Word

/-!
# Running text

A running text is set in lines of some width.  Its line ends and wide gaps say nothing: every gap
is one blank (`collapse`).

* `chunks`     the blanks and words of the text; a word also ends behind a hyphen between words of
               letters, and at a dash of two hyphens or more;
* `setChunks`  as many chunks to a line as there is room for.  Blanks at line ends are dropped, and
               a word longer than a line is cut, behind its last hyphen if it has one there;
* `setText`    all of it.
-/

namespace ProxyInjector.Text

/-! ## gaps -/

def isGap (c : Char) : Bool := c == ' ' || (9 ≤ c.toNat && c.toNat ≤ 13)

/-- one blank for every gap; `inGap` says that one has been written for this gap -/
def collapseFrom (inGap : Bool) : List Char → List Char
  | [] => []
  | c :: cs =>
    if !isGap c then c :: collapseFrom false cs
    else if inGap then collapseFrom true cs
    else ' ' :: collapseFrom true cs

def collapse (cs : List Char) : List Char := trim (collapseFrom false cs)

/-! ## chunks -/

def isLetter (c : Char) : Bool := isWord c && !isDigit c

/-- a dash may follow: a word character, or what ends a phrase -/
def isDashable (c : Char) : Bool := isWord c || "!\x22\x27&.,?".toList.contains c

/-- two hyphens or more and a word character -/
def startsWithDash (cs : List Char) : Bool :=
  decide (2 ≤ (cs.takeWhile (· == '-')).length) && (cs.dropWhile (· == '-')).head?.any isWord

/-- a hyphen between words of letters stands at the head; `before` precedes it, nearest first -/
def startsWithHyphen (before : List Char) : List Char → Bool
  | '-' :: a :: more =>
    (match before with
      | y :: x :: rest =>
        (isLetter x && isLetter y) || (x == '-' && isDashable y && rest.head?.any isLetter)
      | _ => false)
    && isLetter a
    && match more with
      | b :: more => isLetter b || (b == '-' && more.head?.any isLetter)
      | [] => false
  | _ => false

/-- the word at the head, and what follows -/
def word (before : List Char) : List Char → List Char × List Char
  | [] => ([], [])
  | c :: cs =>
    if startsWithHyphen (c :: before) cs then (c :: cs.take 1, cs.drop 1)
    else if cs.head?.all (· == ' ') || (isDashable c && startsWithDash cs) then ([c], cs)
    else
      let (w, rest) := word (c :: before) cs
      (c :: w, rest)

/-- the chunk at the head, and what follows -/
def chunk (before cs : List Char) : List Char × List Char :=
  if cs.head? = some ' ' then (cs.takeWhile (· == ' '), cs.dropWhile (· == ' '))
  else if before.head?.any isDashable && startsWithDash cs then
    (cs.takeWhile (· == '-'), cs.dropWhile (· == '-'))
  else word before cs

/-- `fuel` bounds the length -/
def chunksFrom : (fuel : Nat) → (before cs : List Char) → List (List Char)
  | _, _, [] => []
  | 0, _, cs => [cs]
  | fuel + 1, before, cs =>
    let (c, rest) := chunk before cs
    c :: chunksFrom fuel (c.reverse ++ before) rest

def chunks (cs : List Char) : List (List Char) := chunksFrom cs.length [] cs

/-! ## lines -/

/-- the chunks that fit on a line with `length` characters, and the others -/
def fitting (width length : Nat) : List (List Char) → List (List Char) × List (List Char)
  | [] => ([], [])
  | c :: cs =>
    if length + c.length ≤ width then
      let (line, rest) := fitting width (length + c.length) cs
      (c :: line, rest)
    else ([], c :: cs)

/-- how much of a long word goes on a line with that much room -/
def cutLength (room : Nat) (word : List Char) : Nat :=
  match ((word.take room).reverse.dropWhile (· != '-')).drop 1 with
  | [] => room
  | front => if front.all (· == '-') then room else front.length + 1

/-- the head of a word longer than a line goes on the line -/
def cutLong (width : Nat) (line : List (List Char)) :
    List (List Char) → List (List Char) × List (List Char)
  | [] => (line, [])
  | w :: ws =>
    if width < w.length then
      let n := cutLength (width - line.flatten.length) w
      (line ++ [w.take n], w.drop n :: ws)
    else (line, w :: ws)

def isBlankChunk (c : List Char) : Bool := c.all isBlank

/-- `fuel` bounds the number of lines, and `isFirst` says that there is none yet -/
def setFrom (width : Nat) : (fuel : Nat) → (isFirst : Bool) → List (List Char) → List (List Char)
  | _, _, [] => []
  | 0, _, _ => []
  | fuel + 1, isFirst, c :: cs =>
    let (line, rest) := fitting width 0 (if !isFirst && isBlankChunk c then cs else c :: cs)
    let (line, rest) := cutLong width line rest
    let line := if line.getLast?.any isBlankChunk then line.dropLast else line
    if line = [] then setFrom width fuel isFirst rest
    else line.flatten :: setFrom width fuel false rest

def setChunks (width : Nat) (cs : List (List Char)) : List (List Char) :=
  setFrom width (cs.flatten.length + 1) true cs

def setText (width : Nat) (cs : List Char) : List (List Char) :=
  setChunks width (chunks (collapse cs))

end ProxyInjector.Text
