import NetworkTopology.Text.Percent

/-!
# Encodings of a document

A document starts with two ASCII characters, or is a single one, so the zero bytes among its first
four tell in which Unicode encoding it is written and in which order the bytes of a unit stand.
Reading fails where the bytes write no text; half of a surrogate pair is a code point of its own.
-/

namespace NetworkTopology.Text

/-- A Unicode encoding, with the order of the bytes in a unit where a unit has several. -/
inductive Encoding where
  | utf8
  | utf16 (bigEndian : Bool)
  | utf32 (bigEndian : Bool)
  deriving DecidableEq, Repr

namespace Encoding

/-- The encoding that the zeros among the first bytes of a document show. -/
def guess : List Nat → Encoding
  | 0 :: 0 :: _ :: _ :: _ => utf32 true
  | 0 :: _ :: _ :: _ :: _ => utf16 true
  | _ :: 0 :: 0 :: 0 :: _ => utf32 false
  | _ :: 0 :: _ :: _ :: _ => utf16 false
  | [0, _] => utf16 true
  | [_, 0] => utf16 false
  | _ => utf8

def number (bigEndian : Bool) (bytes : List Nat) : Nat :=
  (if bigEndian then bytes else bytes.reverse).foldl (fun n byte => 256 * n + byte) 0

/-- The units of two bytes; none may be cut short. -/
def units16 (bigEndian : Bool) : List Nat → Option (List Nat)
  | [] => some []
  | a :: b :: bytes => (units16 bigEndian bytes).map (number bigEndian [a, b] :: ·)
  | [_] => none

/-- The units of four bytes; none may be cut short. -/
def units32 (bigEndian : Bool) : List Nat → Option (List Nat)
  | [] => some []
  | a :: b :: c :: d :: bytes => (units32 bigEndian bytes).map (number bigEndian [a, b, c, d] :: ·)
  | _ => none

/-- The code points that units of two bytes stand for. -/
def codePoints16 : List Nat → List Nat
  | high :: low :: units =>
    match pair? high low with
    | some n => n :: codePoints16 units
    | none => high :: codePoints16 (low :: units)
  | units => units

/-- The text that bytes write in UTF-16. -/
def decode16 (bigEndian : Bool) (bytes : List Nat) : Option (List Nat) :=
  (units16 bigEndian bytes).map codePoints16

/-- The text that bytes write in UTF-32. -/
def decode32 (bigEndian : Bool) (bytes : List Nat) : Option (List Nat) :=
  (units32 bigEndian bytes).filter fun units => units.all (· < beyond)

/-- The text that characters turn out to be when their bytes are read in the encoding they show. -/
def reread (cs : List Char) : Option (List Nat) :=
  let bytes := cs.flatMap utf8Bytes
  match guess bytes with
  | utf8 => some (cs.map Char.toNat)
  | utf16 bigEndian => decode16 bigEndian bytes
  | utf32 bigEndian => decode32 bigEndian bytes

end Encoding

end NetworkTopology.Text
