import ProxyInjector.CommandLine.Parser
import ProxyInjector.Text.Blank
import ProxyInjector.Text.Lines
import ProxyInjector.Text.Segments

/-!
# Usage

A usage shows every flag with its arguments, options first and in brackets if they may be left
out.  Blanks inside of brackets, empty brackets, and parentheses that hold no alternatives are
removed from it (`tidy`), which also meets what stands in names and choices.

A usage that does not fit in a line is wrapped at the width of the terminal, options and
positional flags apart, and the further lines are aligned behind the name of the program.  For this
it is cut into pieces; where these do not make up the usage again, it cannot be shown
(`Parser.usage?`).
-/

namespace ProxyInjector.CommandLine

open Text (joinSpaced spaces fill)

/-- the number of columns that text may fill -/
def textWidth : Nat := 78

namespace Flag

/-- an option by its first name and its arguments, a positional flag by its arguments -/
def usage (f : Flag) : String :=
  match f.names with
  | [] => f.arguments
  | n :: _ =>
    let shown := if f.arity.isZero then n else n ++ " " ++ f.arguments
    if f.required then shown else "[" ++ shown ++ "]"

end Flag

/-! ## brackets -/

def isOpening (c : Char) : Bool := c == '[' || c == '('

def isClosing (c : Char) : Bool := c == ']' || c == ')'

/-- one blank less behind every opening bracket; `opened` says that one precedes -/
def closeUpFront (opened : Bool) : List Char → List Char
  | [] => []
  | c :: cs =>
    if opened && c == ' ' then closeUpFront false cs else c :: closeUpFront (isOpening c) cs

/-- one blank less in front of every closing bracket -/
def closeUpBack : List Char → List Char
  | ' ' :: c :: cs => if isClosing c then c :: closeUpBack cs else ' ' :: closeUpBack (c :: cs)
  | c :: cs => c :: closeUpBack cs
  | [] => []

/-- brackets with nothing but blanks between them are left out; `fuel` bounds the length -/
def withoutEmpty : (fuel : Nat) → List Char → List Char
  | 0, cs => cs
  | _, [] => []
  | fuel + 1, c :: cs =>
    match isOpening c, cs.dropWhile (· == ' ') with
    | true, d :: rest =>
      if isClosing d then withoutEmpty fuel rest else c :: withoutEmpty fuel cs
    | _, _ => c :: withoutEmpty fuel cs

/-- parentheses are left out, from the first opening one to the last closing one in front of a bar,
and once more behind them; `fuel` bounds the length -/
def withoutParentheses : (fuel : Nat) → List Char → List Char
  | 0, cs => cs
  | _, [] => []
  | fuel + 1, '(' :: cs =>
    match Text.cutLast? ')' (cs.takeWhile (· != '|')) with
    | some (inner, outer) =>
      inner ++ withoutParentheses fuel (outer ++ cs.dropWhile (· != '|'))
    | none => '(' :: withoutParentheses fuel cs
  | fuel + 1, c :: cs => c :: withoutParentheses fuel cs

def tidy (cs : List Char) : List Char :=
  let cs := closeUpBack (closeUpFront false cs)
  let cs := withoutEmpty cs.length cs
  Text.trim (withoutParentheses cs.length cs)

/-! ## pieces -/

/-- the length of a bracketed piece at the head of `cs`, counted from behind its opening bracket:
it ends with a run of closing brackets that a blank or the end follows -/
def bracketed? (close : Char) (closing : Bool) : List Char → Option Nat
  | [] => if closing then some 0 else none
  | c :: cs =>
    if closing && Text.isBlank c then some 0
    else if c = '\n' then none
    else (bracketed? close (c == close) cs).map (· + 1)

/-- the length of the piece at the head of `cs` that no line break may split -/
def pieceLength (cs : List Char) : Nat :=
  let plain := (cs.takeWhile fun c => !Text.isBlank c).length
  match cs with
  | '(' :: rest => ((bracketed? ')' false rest).map (· + 1)).getD plain
  | '[' :: rest => ((bracketed? ']' false rest).map (· + 1)).getD plain
  | _ => plain

/-- the pieces between blanks; `fuel` bounds the length -/
def piecesFrom : (fuel : Nat) → List Char → List (List Char)
  | 0, _ => []
  | fuel + 1, cs =>
    match cs.dropWhile Text.isBlank with
    | [] => []
    | cs => cs.take (pieceLength cs) :: piecesFrom fuel (cs.drop (pieceLength cs))

/-- the pieces of a usage, if they make it up with single spaces between them -/
def pieces? (cs : List Char) : Option (List (List Char)) :=
  let ps := piecesFrom cs.length cs
  if joinSpaced ps = cs then some ps else none

/-! ## lines -/

/-- text without newlines at its ends, at most one empty line at a time inside, and a newline
behind it; `before` counts the newlines that precede -/
def withoutGaps (before : Nat) : List Char → List Char
  | [] => []
  | '\n' :: cs => if before < 2 then '\n' :: withoutGaps (before + 1) cs else withoutGaps before cs
  | c :: cs => c :: withoutGaps 0 cs

def block (cs : List Char) : String :=
  let cs := (withoutGaps 0 cs).dropWhile (· == '\n')
  String.ofList (Text.dropTrailing (· == '\n') cs ++ ['\n'])

namespace Parser

def usageText (flags : List Flag) : List Char :=
  tidy (joinSpaced (flags.map fun f => f.usage.toList))

def usageMark : List Char := "usage: ".toList

/-- the lines of a usage in pieces -/
def wrapped (program : List Char) (optional positional : List (List Char)) :
    List (List Char) :=
  if 4 * (usageMark.length + program.length) ≤ 3 * textWidth then
    let indent := usageMark.length + program.length + 1
    let width := textWidth - indent
    let hang (lines : List (List Char)) := lines.map (spaces indent ++ ·)
    let front (words : List (List Char)) (rest : List (List Char)) :=
      match fill (textWidth - usageMark.length) width (program :: words) with
      | [] => rest
      | l :: ls => l :: hang ls ++ rest
    if optional = [] then front positional []
    else front optional (hang (fill width width positional))
  else
    let indent := usageMark.length
    let width := textWidth - indent
    let hang (lines : List (List Char)) := lines.map (spaces indent ++ ·)
    let together := fill width width (optional ++ positional)
    program :: hang (if together.length ≤ 1 then together
      else fill width width optional ++ fill width width positional)

def usageLines? (p : Parser) : Option (List (List Char)) :=
  let program := p.program.toList
  let optional := p.flags.filter fun f => !f.isPositional
  let positional := p.flags.filter Flag.isPositional
  let text := usageText (optional ++ positional)
  let whole := if text = [] then program else program ++ ' ' :: text
  if usageMark.length + whole.length ≤ textWidth then some [whole]
  else
    (pieces? (usageText optional)).bind fun optional =>
      (pieces? (usageText positional)).map fun positional => wrapped program optional positional

def usageChars? (p : Parser) : Option (List Char) :=
  p.usageLines?.map fun lines => usageMark ++ ['\n'].intercalate lines

/-- the usage, ending with a newline -/
def usage? (p : Parser) : Option String := p.usageChars?.map block

/-- what is said about a wrong command line, behind the usage -/
def complaint (p : Parser) (message : String) : String :=
  p.program ++ ": error: " ++ message ++ "\n"

end Parser

end ProxyInjector.CommandLine
