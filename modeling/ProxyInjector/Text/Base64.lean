/-!
# Base64

Three bytes are written as four characters of a fixed alphabet; a last group of one or two bytes
is filled up with equals signs.

* `encode`   bytes as text;
* `decode`   text as bytes.  What is not in the alphabet is passed over.  Equals signs end the
             text where they fill a group up, and are passed over elsewhere, but the last group
             has to be full.
-/

namespace ProxyInjector.Text.Base64

def alphabet : List Char :=
  "ABCDEFGHIJKLMNOPQRSTUVWXYZabcdefghijklmnopqrstuvwxyz0123456789+/".toList

def symbol (n : Nat) : Char := alphabet.getD n '='

def encode : List Nat → List Char
  | a :: b :: c :: bs =>
    symbol (a / 4) :: symbol (a % 4 * 16 + b / 16) :: symbol (b % 16 * 4 + c / 64)
      :: symbol (c % 64) :: encode bs
  | [a, b] => [symbol (a / 4), symbol (a % 4 * 16 + b / 16), symbol (b % 16 * 4), '=']
  | [a] => [symbol (a / 4), symbol (a % 4 * 16), '=', '=']
  | [] => []

/-! ## reading -/

/-- why a text is not read -/
inductive DecodeError where
  /-- the last group holds two or three characters and is not filled up -/
  | unfilled
  /-- the last of `count` characters is alone in its group -/
  | alone (count : Nat)
deriving DecidableEq, Repr

namespace DecodeError

def label : DecodeError → String
  | _ => "Error"

def message : DecodeError → String
  | .unfilled => "Incorrect padding"
  | .alone count =>
    "Invalid base64-encoded string: number of data characters (" ++ toString count
      ++ ") cannot be 1 more than a multiple of 4"

end DecodeError

/-- the bytes that the characters of a group make -/
def bytesOf : List Nat → List Nat
  | [a, b] => [a * 4 + b / 16]
  | [a, b, c] => [a * 4 + b / 16, b % 16 * 16 + c / 4]
  | [a, b, c, d] => [a * 4 + b / 16, b % 16 * 16 + c / 4, c % 4 * 64 + d]
  | _ => []

/-- `count` characters are in full groups, `group` is the one being read and `signs` the number of
equals signs in it since its last character -/
def decodeFrom (count : Nat) (group : List Nat) (signs : Nat) :
    List Char → Except DecodeError (List Nat)
  | [] =>
    match group with
    | [] => .ok []
    | [_] => .error (.alone (count + 1))
    | _ => .error .unfilled
  | c :: cs =>
    if c = '=' then
      if group.length < 2 then decodeFrom count group signs cs
      else if 4 ≤ group.length + (signs + 1) then .ok (bytesOf group)
      else decodeFrom count group (signs + 1) cs
    else match alphabet.idxOf? c with
      | none => decodeFrom count group signs cs
      | some n =>
        if group.length = 3 then
          (decodeFrom (count + 4) [] 0 cs).map (bytesOf (group ++ [n]) ++ ·)
        else decodeFrom count (group ++ [n]) 0 cs

def decode (cs : List Char) : Except DecodeError (List Nat) := decodeFrom 0 [] 0 cs

end ProxyInjector.Text.Base64
