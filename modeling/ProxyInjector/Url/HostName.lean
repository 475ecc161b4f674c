import ProxyInjector.Text.Direction
import ProxyInjector.Text.Fold
import ProxyInjector.Text.Normal
import ProxyInjector.Text.Punycode
import ProxyInjector.Text.Quoted
import ProxyInjector.Text.Ranges

/-!
# Names of hosts

A host is looked up by a name in ASCII, which is made of a name in any script label by label.

* `prepared`        a label with its cases folded and in the normal form, if it holds no character
                    that names may not hold, and does not mix the directions of writing;
* `encodedLabel`    the ASCII of a label, and its Punycode behind a mark if it has none;
* `encoded`         the ASCII of a name.  A name that is ASCII already is only measured.
-/

namespace ProxyInjector.Url

/-- why a host name has no ASCII -/
inductive HostNameError where
  /-- a label is empty or too long -/
  | badLabel
  /-- the last label is too long -/
  | longLabel
  | badChar (c : Char)
  /-- letters of both directions in one label -/
  | mixedDirections
  /-- a label of letters written from right to left that does not start and end with one -/
  | openDirection
  /-- a label that looks encoded already -/
  | alreadyEncoded
deriving DecidableEq, Repr

def HostNameError.message : HostNameError → String
  | .badLabel => "label empty or too long"
  | .longLabel => "label too long"
  | .badChar c => "Invalid character " ++ Text.quoted (String.singleton c)
  | .mixedDirections => "Violation of BIDI requirement 2"
  | .openDirection => "Violation of BIDI requirement 3"
  | .alreadyEncoded => "Label starts with ACE prefix"

namespace HostName

def isAscii (c : Char) : Bool := c.toNat < 0x80

/-! ## preparing a label -/

/-- characters that say nothing in a name -/
def silentRanges : List (Nat × Nat) := [
  (0xAD, 0xAD), (0x34F, 0x34F), (0x1806, 0x1806), (0x180B, 0x180D), (0x200B, 0x200D),
  (0x2060, 0x2060), (0xFE00, 0xFE0F), (0xFEFF, 0xFEFF)]

/-- spaces, controls, characters for private use and others that no name holds -/
def barredRanges : List (Nat × Nat) := [
  (0x80, 0xA0), (0x340, 0x341), (0x6DD, 0x6DD), (0x70F, 0x70F), (0x1680, 0x1680),
  (0x180E, 0x180E), (0x2000, 0x200F), (0x2028, 0x202F), (0x205F, 0x2063), (0x206A, 0x206F),
  (0x2FF0, 0x2FFB), (0x3000, 0x3000), (0xE000, 0xF8FF), (0xFDD0, 0xFDEF), (0xFEFF, 0xFEFF),
  (0xFFF9, 0xFFFF), (0x1D173, 0x1D17A), (0x1FFFE, 0x1FFFF), (0x2FFFE, 0x2FFFF),
  (0x3FFFE, 0x3FFFF), (0x4FFFE, 0x4FFFF), (0x5FFFE, 0x5FFFF), (0x6FFFE, 0x6FFFF),
  (0x7FFFE, 0x7FFFF), (0x8FFFE, 0x8FFFF), (0x9FFFE, 0x9FFFF), (0xAFFFE, 0xAFFFF),
  (0xBFFFE, 0xBFFFF), (0xCFFFE, 0xCFFFF), (0xDFFFE, 0xDFFFF), (0xE0001, 0xE0001),
  (0xE0020, 0xE007F), (0xEFFFE, 0x10FFFF)]

def isSilent (c : Char) : Bool := Text.inRanges silentRanges c.toNat

def isBarred (c : Char) : Bool := Text.inRanges barredRanges c.toNat

/-- a character folded, and folded again in the parts that it is made of -/
def foldParts (c : Char) : List Char :=
  (Text.foldChar c).flatMap fun c =>
    (Text.decompose c.toNat).flatMap fun n => Text.foldChar (Char.ofNat n)

def checkDirection (label : List Char) : Except HostNameError Unit :=
  if !label.any Text.isLeftward then .ok ()
  else if label.any Text.isRightward then .error .mixedDirections
  else if label.head?.all Text.isLeftward && label.getLast?.all Text.isLeftward then .ok ()
  else .error .openDirection

def prepared (label : List Char) : Except HostNameError (List Char) :=
  let folded := (label.filter (!isSilent ·)).flatMap foldParts
  let label := (Text.normal (folded.map Char.toNat)).map Char.ofNat
  match label.find? isBarred with
  | some c => .error (.badChar c)
  | none => (checkDirection label).map fun _ => label

/-! ## labels -/

/-- the longest label -/
def maxLabel : Nat := 63

/-- what stands in front of an encoded label -/
def encodedMark : List Char := "xn--".toList

def checkLabel (label : List Char) : Except HostNameError (List Char) :=
  if label = [] ∨ maxLabel < label.length then .error .badLabel else .ok label

def encodedLabel (label : List Char) : Except HostNameError (List Char) :=
  if label.all isAscii then checkLabel label
  else match prepared label with
    | .error e => .error e
    | .ok label =>
      if label.all isAscii then checkLabel label
      else if encodedMark.isPrefixOf label then .error .alreadyEncoded
      else checkLabel (encodedMark ++ Text.Punycode.encode label)

/-! ## names -/

/-- the dots of all scripts -/
def isDot (c : Char) : Bool := [0x2E, 0x3002, 0xFF0E, 0xFF61].contains c.toNat

/-- the labels of a name that ends with a dot or does not; no label is empty but the last one of
a name in ASCII -/
def encoded (name : List Char) : Except HostNameError (List Char) :=
  if name.all isAscii then
    let labels := Text.segments '.' name
    if labels.dropLast.any fun l => l == [] || maxLabel < l.length then .error .badLabel
    else if labels.getLast?.any (maxLabel < ·.length) then .error .longLabel
    else .ok name
  else
    let labels := Text.segments '.' (name.map fun c => if isDot c then '.' else c)
    let endsWithDot := labels.getLast? == some []
    ((if endsWithDot then labels.dropLast else labels).mapM encodedLabel).map fun labels =>
      ['.'].intercalate labels ++ if endsWithDot then ['.'] else []

end HostName

end ProxyInjector.Url
