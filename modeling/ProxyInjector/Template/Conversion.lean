import ProxyInjector.Template.Error
import ProxyInjector.Value

/-!
# How a field is written

A conversion says how a field is written: flags, a width, a precision, and a letter for the form.
`Conversion.write` is the text of a field, or a fault if the letter means nothing, the field does
not suit it, or the text would be larger than any line is.

* `s`, `r`, `a`    as text, quoted, and quoted in ASCII; every field has these forms;
* `d`, `i`, `u`    as an integer: numbers and truth values, numbers without their fraction;
* `o`, `x`, `X`    in base 8 or 16: integers and truth values only;
* `e`, `f`, `g`    with a fraction, in either case: whatever is a number or a truth value, rounded
                   to double precision first;
* `c`              one character, or the character of a code.
-/

namespace ProxyInjector.Template

/-- what a template is filled in with -/
inductive Filling where
  | value (v : Value)
  /-- something that is no plain value: its kind, and how it is shown -/
  | shown (kind text : String)

namespace Filling

def text (s : String) : Filling := .value (.text s)

def int (n : Int) : Filling := .value (.int n)

def kind : Filling → String
  | .value v => v.kind
  | .shown kind _ => kind

def plain : Filling → List Char
  | .value v => v.shown.toList
  | .shown _ s => s.toList

def quoted : Filling → List Char
  | .value v => v.quoted.toList
  | .shown _ s => s.toList

/-- the integer that a field holds, whole numbers with a point aside -/
def integer? : Filling → Option Int
  | .value (.bool b) => some (if b then 1 else 0)
  | .value (.int n) => some n
  | _ => none

/-- the integer that a field comes to, without its fraction -/
def truncated (letter : Char) (f : Filling) : Except TemplateError Int :=
  match f, f.integer? with
  | .value (.double d), _ =>
    match d.truncate? with
    | some n => .ok n
    | none => .error .endless
  | _, some n => .ok n
  | _, none => .error (.notNumber letter f.kind)

def integer (letter : Char) (f : Filling) : Except TemplateError Int :=
  match f.integer? with
  | some n => .ok n
  | none => .error (.notInteger letter f.kind)

def double (f : Filling) : Except TemplateError Double :=
  match f, f.integer? with
  | .value (.double d), _ => .ok d
  | _, some n =>
    match Double.ofInt? n with
    | some d => .ok d
    | none => .error .beyondDoubles
  | _, none => .error (.notReal f.kind)

/-- the character that a field holds or whose code it holds -/
def character (f : Filling) : Except TemplateError Char :=
  match f, f.integer? with
  | .value (.text s), _ =>
    match s.toList with
    | [c] => .ok c
    | _ => .error .notCharacter
  | _, some n =>
    if 0 ≤ n ∧ n.toNat.isValidChar then .ok (Char.ofNat n.toNat) else .error .beyondCharacters
  | _, none => .error .notCharacter

end Filling

structure Conversion where
  left : Bool := false
  plus : Bool := false
  space : Bool := false
  alternate : Bool := false
  zero : Bool := false
  width : Nat := 0
  precision : Option Nat := none
  letter : Char
deriving DecidableEq, Repr

namespace Conversion

def isFlag (c : Char) : Bool := c == '-' || c == '+' || c == ' ' || c == '#' || c == '0'

def flag (s : Conversion) (c : Char) : Conversion :=
  match c with
  | '-' => { s with left := true }
  | '+' => { s with plus := true }
  | ' ' => { s with space := true }
  | '#' => { s with alternate := true }
  | '0' => { s with zero := true }
  | _ => s

/-- the largest number of characters that a field is filled up to -/
def maxSize : Nat := 10000000

/-- `cs` filled up to the width with blanks; zeros go between `lead` and the rest -/
def pad (s : Conversion) (lead cs : List Char) (zeros : Bool) : List Char :=
  let gap := s.width - (lead.length + cs.length)
  if s.left then lead ++ cs ++ List.replicate gap ' '
  else if zeros then lead ++ List.replicate gap '0' ++ cs
  else List.replicate gap ' ' ++ lead ++ cs

def sign (s : Conversion) (negative : Bool) : List Char :=
  if negative then ['-'] else if s.plus then ['+'] else if s.space then [' '] else []

def integer (s : Conversion) (mark : List Char) (base : Nat) (upper : Bool) (n : Int) :
    List Char :=
  let digits := Decimal.atLeast (s.precision.getD 0) (Nat.toDigits base n.natAbs)
  let digits := if upper then digits.map Char.toUpper else digits
  s.pad (s.sign (n < 0) ++ if s.alternate then mark else []) digits s.zero

def characters (s : Conversion) (cs : List Char) : List Char :=
  s.pad [] (match s.precision with | some p => cs.take p | none => cs) false

/-- a number by one of the forms of `Decimal`, of which six digits are the standard -/
def real (s : Conversion) (form : Bool → Nat → Nat → Nat → List Char) (upper : Bool)
    (d : Double) : List Char :=
  let cs :=
    match d.ratio? with
    | some (num, den) => form s.alternate (s.precision.getD 6) num den
    | none => ['i', 'n', 'f']
  s.pad (s.sign d.negative) (if upper then cs.map Char.toUpper else cs) s.zero

/-- quoted text with everything behind ASCII written by its code -/
def asciiQuoted (cs : List Char) : List Char :=
  cs.flatMap fun c =>
    if c.toNat < 0x80 then [c]
    else if c.toNat < 0x100 then '\\' :: 'x' :: Text.hexDigits 2 c.toNat
    else if c.toNat < 0x10000 then '\\' :: 'u' :: Text.hexDigits 4 c.toNat
    else '\\' :: 'U' :: Text.hexDigits 8 c.toNat

/-- only text may have a large precision, since it is cut and not filled up -/
def isLarge (s : Conversion) : Bool :=
  maxSize < s.width
    || (!(['s', 'r', 'a', 'c'].contains s.letter) && maxSize < s.precision.getD 0)

/-- the text of a field; `place` is where the letter stands in the template -/
def write (s : Conversion) (place : Nat) (f : Filling) : Except TemplateError (List Char) :=
  if s.isLarge then .error .tooLarge
  else match s.letter with
  | 's' => .ok (s.characters f.plain)
  | 'r' => .ok (s.characters f.quoted)
  | 'a' => .ok (s.characters (asciiQuoted f.quoted))
  | 'd' | 'i' | 'u' => (f.truncated s.letter).map (s.integer [] 10 false)
  | 'o' => (f.integer 'o').map (s.integer ['0', 'o'] 8 false)
  | 'x' => (f.integer 'x').map (s.integer ['0', 'x'] 16 false)
  | 'X' => (f.integer 'X').map (s.integer ['0', 'X'] 16 true)
  | 'f' => f.double.map (s.real Decimal.fixed false)
  | 'F' => f.double.map (s.real Decimal.fixed true)
  | 'e' => f.double.map (s.real Decimal.scientific false)
  | 'E' => f.double.map (s.real Decimal.scientific true)
  | 'g' => f.double.map (s.real Decimal.general false)
  | 'G' => f.double.map (s.real Decimal.general true)
  | 'c' => f.character.map fun c => s.pad [] [c] false
  | letter => .error (.unknownLetter letter place)

end Conversion

end ProxyInjector.Template
