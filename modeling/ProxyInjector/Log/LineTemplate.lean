import ProxyInjector.Template.Conversion
import ProxyInjector.Text.Digit
import ProxyInjector.Text.Word

/-!
# Templates of log lines

A template of log lines has to ask for something: `LineTemplate.valid` says that it holds at least
one conversion of a named field.  The check knows sizes in the digits of any script and sizes that
are left open, which are found to be wrong only when a line is written.
-/

namespace ProxyInjector.Log.LineTemplate

open ProxyInjector.Template (Conversion)

/-- the letters of conversions in either case, and two more that only differ from them in case by
the rules of some scripts -/
def isLetter (c : Char) : Bool :=
  "diouxefgcrsa%DIOUXEFGCRSA\u0130\u0131\u017f".toList.contains c

/-- `cs` without a size: a star, or digits of any script -/
def afterSize (cs : List Char) : List (List Char) :=
  match cs with
  | '*' :: rest => [rest, cs]
  | cs => [cs.dropWhile Text.isDigit, cs]

/-- what may follow the name of a field in a conversion -/
def closes (cs : List Char) : Bool :=
  (afterSize (cs.dropWhile Conversion.isFlag)).any fun cs =>
    cs.head?.any isLetter ||
      match cs with
      | '.' :: rest =>
        match rest with
        | '*' :: rest => rest.head?.any isLetter
        | c :: _ => Text.isDigit c && (rest.dropWhile Text.isDigit).head?.any isLetter
        | [] => false
      | _ => false

/-- a conversion of a named field starts at the head of `cs` -/
def opens : List Char → Bool
  | '%' :: '(' :: cs =>
    let rest := cs.dropWhile Text.isWord
    rest.length < cs.length &&
      match rest with
      | ')' :: rest => closes rest
      | _ => false
  | _ => false

def valid : List Char → Bool
  | [] => false
  | c :: cs => opens (c :: cs) || valid cs

end ProxyInjector.Log.LineTemplate
