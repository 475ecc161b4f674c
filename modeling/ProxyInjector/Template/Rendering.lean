import ProxyInjector.Template.Conversion

/-!
# Filling in a template

A template is text with conversions: a percent sign, the name of a field in parentheses, and how
the field is written.  A conversion without a name writes the whole that the fields belong to, and
only one can.  A size may be left open with a star, and is then taken from the field.  Two percent
signs stand for one.

* `Template.render`    the text, or the first conversion's fault.
-/

namespace ProxyInjector.Template

/-! ## reading a conversion -/

/-- the name up to the parenthesis that closes it, and the rest behind; `depth` is the number of
parentheses still open inside the name -/
def name? (depth : Nat) : List Char → Option (List Char × List Char)
  | [] => none
  | c :: cs =>
    if c = ')' then
      match depth with
      | 0 => some ([], cs)
      | d + 1 => (name? d cs).map fun p => (c :: p.1, p.2)
    else (name? (if c = '(' then depth + 1 else depth) cs).map fun p => (c :: p.1, p.2)

/-- the largest width and precision that can be written -/
def maxWidth : Nat := Nat.pow 2 63 - 1
def maxPrecision : Nat := Nat.pow 2 31 - 1

/-- the number at the head of `cs`, zero if there is none, if it does not exceed `limit` -/
def size? (limit : Nat) (cs : List Char) : Option (Nat × List Char) :=
  let n := (cs.takeWhile Char.isDigit).foldl (fun n c => 10 * n + (c.toNat - 48)) 0
  if limit < n then none else some (n, cs.dropWhile Char.isDigit)

/-- the field that a conversion may take, if it has not been taken yet -/
abbrev Pending := Option Filling

/-- a size left open: the integer of the field, which is taken -/
def openSize : Pending → Except TemplateError Int
  | none => .error .noArgument
  | some f =>
    match f.integer? with
    | some n => .ok n
    | none => .error .sizeNotInteger

/-- the width; one below zero goes to the other side -/
def width (c : Conversion) (pending : Pending) :
    List Char → Except TemplateError (Conversion × Pending × List Char)
  | '*' :: cs => (openSize pending).map fun (n : Int) =>
    ({ c with width := n.natAbs, left := c.left || decide (n < 0) }, none, cs)
  | cs =>
    match size? maxWidth cs with
    | some (n, cs) => .ok ({ c with width := n }, pending, cs)
    | none => .error .wideWidth

def precision (c : Conversion) (pending : Pending) :
    List Char → Except TemplateError (Conversion × Pending × List Char)
  | '.' :: '*' :: cs => (openSize pending).map fun (n : Int) =>
    ({ c with precision := some n.toNat }, none, cs)
  | '.' :: cs =>
    match size? maxPrecision cs with
    | some (n, cs) => .ok ({ c with precision := some n }, pending, cs)
    | none => .error .widePrecision
  | cs => .ok (c, pending, cs)

/-- a letter for the length of a number says nothing -/
def withoutLength : List Char → List Char
  | c :: cs => if c = 'h' ∨ c = 'l' ∨ c = 'L' then cs else c :: cs
  | [] => []

/-- flags, width, precision and letter, and what follows -/
def conversion (pending : Pending) (cs : List Char) :
    Except TemplateError (Conversion × Pending × List Char) := do
  let plain : Conversion := { letter := '%' }
  let flagged := (cs.takeWhile Conversion.isFlag).foldl Conversion.flag plain
  let (c, pending, cs) ← width flagged pending (cs.dropWhile Conversion.isFlag)
  let (c, pending, cs) ← precision c pending cs
  match withoutLength cs with
  | [] => .error .openConversion
  | letter :: cs => .ok ({ c with letter }, pending, cs)

/-! ## writing -/

/-- what is offered to a template: fields by name, and the whole of them -/
structure View where
  field? : List Char → Option Filling
  whole : Filling

/-- the conversion at the head of `cs` carried out; `size` is the length of the template -/
def carryOut (size : Nat) (pending : Pending) (cs : List Char) :
    Except TemplateError (List Char × Pending × List Char) := do
  let (c, pending, rest) ← conversion pending cs
  match pending with
  | none => .error .noArgument
  | some f => (c.write (size - rest.length - 1) f).map (·, none, rest)

/-- the text of the conversion at the head of `cs`, behind its percent sign, and what follows -/
def convert (v : View) (size : Nat) (pending : Pending) :
    List Char → Except TemplateError (List Char × Pending × List Char)
  | '(' :: cs =>
    match name? 0 cs with
    | none => .error .openName
    | some (name, cs) =>
      match v.field? name with
      | none => .error (.noField (String.ofList name))
      | some f => carryOut size (some f) cs
  | cs => carryOut size pending cs

/-- `fuel` bounds the number of characters -/
def renderFrom (v : View) (size : Nat) :
    (fuel : Nat) → Pending → List Char → Except TemplateError (List Char)
  | _, _, [] => .ok []
  | 0, _, _ => .error .openConversion
  | fuel + 1, pending, '%' :: '%' :: cs => (renderFrom v size fuel pending cs).map ('%' :: ·)
  | fuel + 1, pending, '%' :: cs => do
    let (out, pending, rest) ← convert v size pending cs
    (renderFrom v size fuel pending rest).map (out ++ ·)
  | fuel + 1, pending, c :: cs => (renderFrom v size fuel pending cs).map (c :: ·)

def render (template : List Char) (v : View) : Except TemplateError (List Char) :=
  renderFrom v template.length template.length (some v.whole) template

end ProxyInjector.Template
