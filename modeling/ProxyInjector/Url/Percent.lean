import ProxyInjector.Text.Digit
import ProxyInjector.Text.Utf8

/-!
# Percent escapes

A percent sign and two hex digits stand for a byte.  `unescape` replaces them in every stretch of
ASCII and reads the bytes of the stretch as UTF-8; a percent sign without two hex digits stands
for itself, and so does everything behind ASCII.  A text without percent signs stays as it is.
-/

namespace ProxyInjector.Url

/-- the bytes of a text with its escapes replaced -/
def bytes : List Char → List Nat
  | [] => []
  | '%' :: a :: b :: cs =>
    match Text.hexValue? a, Text.hexValue? b with
    | some x, some y => (16 * x + y) :: bytes cs
    | _, _ => '%'.toNat :: bytes (a :: b :: cs)
  | c :: cs => Text.Utf8.encodeChar c ++ bytes cs

/-- `stretch` is the ASCII read since the last character behind it, nearest first -/
def unescapeFrom (stretch : List Char) : List Char → List Char
  | [] => Text.Utf8.decode (bytes stretch.reverse)
  | c :: cs =>
    if c.toNat < 0x80 then unescapeFrom (c :: stretch) cs
    else Text.Utf8.decode (bytes stretch.reverse) ++ c :: unescapeFrom [] cs

def unescape (cs : List Char) : List Char := unescapeFrom [] cs

end ProxyInjector.Url
