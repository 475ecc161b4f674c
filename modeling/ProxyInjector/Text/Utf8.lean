/-!
# UTF-8 with replacement

`encode` writes characters as bytes.  `decode` reads bytes back; where they are no UTF-8 it
writes one replacement character for each longest piece that a valid sequence could start with,
and for each byte that starts none.
-/

namespace ProxyInjector.Text.Utf8

def encodeChar (c : Char) : List Nat :=
  let n := c.toNat
  if n < 0x80 then [n]
  else if n < 0x800 then [0xC0 + n / 64, 0x80 + n % 64]
  else if n < 0x10000 then [0xE0 + n / 4096, 0x80 + n / 64 % 64, 0x80 + n % 64]
  else [0xF0 + n / 262144, 0x80 + n / 4096 % 64, 0x80 + n / 64 % 64, 0x80 + n % 64]

def encode (cs : List Char) : List Nat := cs.flatMap encodeChar

/-- how a sequence goes on after its first byte: the payload of that byte, the bounds of the
second byte and the number of bytes that follow; `none` if no sequence starts with it -/
def lead? (b : Nat) : Option (Nat × Nat × Nat × Nat) :=
  if 0xC2 ≤ b ∧ b ≤ 0xDF then some (b - 0xC0, 0x80, 0xBF, 1)
  else if b = 0xE0 then some (0, 0xA0, 0xBF, 2)
  else if b = 0xED then some (0xD, 0x80, 0x9F, 2)
  else if 0xE1 ≤ b ∧ b ≤ 0xEF then some (b - 0xE0, 0x80, 0xBF, 2)
  else if b = 0xF0 then some (0, 0x90, 0xBF, 3)
  else if b = 0xF4 then some (4, 0x80, 0x8F, 3)
  else if 0xF1 ≤ b ∧ b ≤ 0xF3 then some (b - 0xF0, 0x80, 0xBF, 3)
  else none

/-- the bytes that are still missing in the sequence being read: its payload so far, the bounds of
the next byte, and how many bytes are to come -/
structure Pending where
  payload : Nat
  low : Nat
  high : Nat
  missing : Nat

def replacement : Char := '\uFFFD'

/-- the characters of a byte that starts a sequence, and the sequence it opens -/
def start (b : Nat) : List Char × Option Pending :=
  if b < 0x80 then ([Char.ofNat b], none)
  else match lead? b with
    | some (payload, low, high, missing) => ([], some ⟨payload, low, high, missing⟩)
    | none => ([replacement], none)

def decodeFrom : Option Pending → List Nat → List Char
  | none, [] => []
  | some _, [] => [replacement]
  | none, b :: bs => (start b).1 ++ decodeFrom (start b).2 bs
  | some p, b :: bs =>
    if p.low ≤ b ∧ b ≤ p.high then
      let payload := p.payload * 64 + (b - 0x80)
      if p.missing ≤ 1 then Char.ofNat payload :: decodeFrom none bs
      else decodeFrom (some ⟨payload, 0x80, 0xBF, p.missing - 1⟩) bs
    else replacement :: ((start b).1 ++ decodeFrom (start b).2 bs)

def decode (bs : List Nat) : List Char := decodeFrom none bs

end ProxyInjector.Text.Utf8
