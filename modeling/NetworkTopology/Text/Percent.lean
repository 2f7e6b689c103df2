import NetworkTopology.Text.Hexadecimal
import NetworkTopology.Text.Spelling

/-!
# Percent encoding

A percent sign and two hexadecimal digits write one byte; other characters write themselves.  The
bytes are then read as UTF-8, and each maximal part that no character can start with is read as the
replacement character.
-/

namespace NetworkTopology.Text

/-- The bytes of a character in UTF-8. -/
def utf8Bytes (c : Char) : List Nat :=
  let n := c.toNat
  if n < 0x80 then [n]
  else if n < 0x800 then [0xC0 + n / 0x40, 0x80 + n % 0x40]
  else if n < 0x10000 then [0xE0 + n / 0x1000, 0x80 + n / 0x40 % 0x40, 0x80 + n % 0x40]
  else [0xF0 + n / 0x40000, 0x80 + n / 0x1000 % 0x40, 0x80 + n / 0x40 % 0x40, 0x80 + n % 0x40]

/-- The bytes that a text with percent escapes writes. -/
def percentBytes : List Char → List Nat
  | '%' :: a :: b :: rest =>
    match hexValue? a, hexValue? b with
    | some x, some y => (16 * x + y) :: percentBytes rest
    | _, _ => '%'.toNat :: percentBytes (a :: b :: rest)
  | c :: rest => utf8Bytes c ++ percentBytes rest
  | [] => []

/-- The number of further bytes that a first byte calls for, and the bounds of the second byte. -/
def sequenceShape? (first : Nat) : Option (Nat × Nat × Nat) :=
  if 0xC2 ≤ first ∧ first ≤ 0xDF then some (1, 0x80, 0xBF)
  else if first = 0xE0 then some (2, 0xA0, 0xBF)
  else if first = 0xED then some (2, 0x80, 0x9F)
  else if 0xE1 ≤ first ∧ first ≤ 0xEF then some (2, 0x80, 0xBF)
  else if first = 0xF0 then some (3, 0x90, 0xBF)
  else if 0xF1 ≤ first ∧ first ≤ 0xF3 then some (3, 0x80, 0xBF)
  else if first = 0xF4 then some (3, 0x80, 0x8F)
  else none

/-- Where decoding stands: the value of the bytes of a character so far, how many are still owed,
and the bounds of the next. -/
structure Pending where
  value : Nat
  owed : Nat
  low : Nat
  high : Nat

/-- Reads a byte at the start of a character: the character if it is complete, the replacement if
nothing starts so, or what is pending. -/
def startCharacter (byte : Nat) : List Char × Option Pending :=
  if byte < 0x80 then ([Char.ofNat byte], none)
  else match sequenceShape? byte with
    | none => (['\uFFFD'], none)
    | some (1, low, high) => ([], some ⟨byte - 0xC0, 1, low, high⟩)
    | some (2, low, high) => ([], some ⟨byte - 0xE0, 2, low, high⟩)
    | some (owed, low, high) => ([], some ⟨byte - 0xF0, owed, low, high⟩)

/-- Decodes UTF-8 from a place inside a character or between two. -/
def decodeUtf8 : Option Pending → List Nat → List Char
  | none, [] => []
  | some _, [] => ['\uFFFD']
  | none, byte :: bytes =>
    let (cs, pending) := startCharacter byte
    cs ++ decodeUtf8 pending bytes
  | some p, byte :: bytes =>
    if p.low ≤ byte ∧ byte ≤ p.high then
      let value := p.value * 0x40 + (byte - 0x80)
      if p.owed ≤ 1 then Char.ofNat value :: decodeUtf8 none bytes
      else decodeUtf8 (some ⟨value, p.owed - 1, 0x80, 0xBF⟩) bytes
    else
      let (cs, pending) := startCharacter byte
      '\uFFFD' :: cs ++ decodeUtf8 pending bytes

/-- The spelling of the text that characters with percent escapes stand for. -/
def percentDecode (cs : List Char) : List Char :=
  spelled ((decodeUtf8 none (percentBytes cs)).map Char.toNat)

end NetworkTopology.Text
