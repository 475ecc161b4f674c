import ProxyInjector.Text.Quoted

/-!
# Faults of templates

Why a template cannot be filled in: it breaks off, it asks for a field that nobody knows, or it asks
for a form that does not suit the field.
-/

namespace ProxyInjector

inductive TemplateError where
  /-- the name of a field that no parenthesis closes -/
  | openName
  /-- a conversion that breaks off -/
  | openConversion
  | noField (name : String)
  | wideWidth
  | widePrecision
  /-- a conversion that nothing is left for -/
  | noArgument
  /-- a size that stands in a field which is no integer -/
  | sizeNotInteger
  /-- a letter without meaning, and its place in the template -/
  | unknownLetter (letter : Char) (place : Nat)
  | notNumber (letter : Char) (kind : String)
  | notInteger (letter : Char) (kind : String)
  | notReal (kind : String)
  | notCharacter
  /-- the integer of a number that has none -/
  | endless
  /-- an integer beyond all doubles -/
  | beyondDoubles
  /-- an integer that is the code of no character -/
  | beyondCharacters
  /-- a text larger than any line -/
  | tooLarge
deriving DecidableEq, Repr

namespace TemplateError

def label : TemplateError → String
  | .openName | .openConversion | .wideWidth | .widePrecision | .unknownLetter .. => "ValueError"
  | .noField _ => "KeyError"
  | .endless | .beyondDoubles | .beyondCharacters => "OverflowError"
  | .tooLarge => "MemoryError"
  | _ => "TypeError"

/-- a letter as a message shows it: only those of ASCII are shown -/
def shownLetter (c : Char) : Char := if 31 ≤ c.toNat ∧ c.toNat ≤ 126 then c else '?'

def message : TemplateError → String
  | .openName => "incomplete format key"
  | .openConversion => "incomplete format"
  | .noField name => Text.quoted name
  | .wideWidth => "width too big"
  | .widePrecision => "precision too big"
  | .noArgument => "not enough arguments for format string"
  | .sizeNotInteger => "* wants int"
  | .unknownLetter c place =>
    "unsupported format character '" ++ String.singleton (shownLetter c) ++ "' (0x"
      ++ String.ofList (Nat.toDigits 16 c.toNat) ++ ") at index " ++ toString place
  | .notNumber letter kind =>
    "%" ++ String.singleton letter ++ " format: a real number is required, not " ++ kind
  | .notInteger letter kind =>
    "%" ++ String.singleton letter ++ " format: an integer is required, not " ++ kind
  | .notReal kind => "must be real number, not " ++ kind
  | .notCharacter => "%c requires int or char"
  | .endless => "cannot convert float infinity to integer"
  | .beyondDoubles => "int too large to convert to float"
  | .beyondCharacters => "%c arg not in range(0x110000)"
  | .tooLarge => ""

end TemplateError

end ProxyInjector
