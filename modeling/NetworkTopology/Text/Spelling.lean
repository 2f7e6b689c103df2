/-!
# Texts and their spelling

A text is a row of code points: characters, and surrogates, which are no characters, though an
escape in a document can write one alone.  A string holds a text in a spelling.  A character spells
itself; a surrogate is spelled by a mark, the character right before the surrogates, and a second
character that tells which surrogate it is, and the mark is spelled in this way, too.  Different
texts are spelled differently, none begins within a code point of another, and the spellings are in
the order of the texts; so strings are compared, joined, searched and sorted in place of texts.
-/

namespace NetworkTopology.Text

/-- The character right before the surrogates. -/
def mark : Char := '\uD7FF'

/-- A character that tells, behind a mark, which code point is meant. -/
def isSign (c : Char) : Bool :=
  0xE000 ≤ c.toNat && c.toNat ≤ 0xE800

/-- The number after the last code point.  It is read where a mark stands without a sign, which no
spelling of a text holds. -/
def beyond : Nat := 0x110000

/-- The characters that spell a code point. -/
def spelling (n : Nat) : List Char :=
  if 0xD7FF ≤ n ∧ n ≤ 0xDFFF then [mark, Char.ofNat (n + 0x801)]
  else if n = beyond then [mark]
  else [Char.ofNat n]

/-- The characters that spell a text. -/
def spelled (ns : List Nat) : List Char :=
  ns.flatMap spelling

/-- The code point of a character that stands alone. -/
def point (c : Char) : Nat :=
  if c = mark then beyond else c.toNat

/-- The text that characters spell. -/
def points : List Char → List Nat
  | [] => []
  | [c] => [point c]
  | c :: sign :: cs =>
    if c = mark ∧ isSign sign then (sign.toNat - 0x801) :: points cs
    else point c :: points (sign :: cs)

/-- The number of code points of a text. -/
def size (s : String) : Nat :=
  (points s.toList).length

/-- The spelling of a text that consists of characters. -/
def ofCharacters (s : String) : String :=
  String.ofList (spelled (s.toList.map Char.toNat))

/-- The character of a code point. -/
def character? (n : Nat) : Option Char :=
  if h : n.isValidChar then some (Char.ofNatAux n h) else none

/-- The characters of a text; there are none of a text with a surrogate. -/
def characters? (cs : List Char) : Option (List Char) :=
  (points cs).mapM character?

/-- The code point of a surrogate pair. -/
def pair? (high low : Nat) : Option Nat :=
  if 0xD800 ≤ high ∧ high ≤ 0xDBFF ∧ 0xDC00 ≤ low ∧ low ≤ 0xDFFF then
    some (0x10000 + 0x400 * (high - 0xD800) + (low - 0xDC00))
  else none

end NetworkTopology.Text
