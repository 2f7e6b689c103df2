import NetworkTopology.Text.Hexadecimal
import NetworkTopology.Text.Printable
import NetworkTopology.Text.Spelling

/-!
# Quoted text

Messages show a name between quotation marks, with escapes for all that cannot be printed.  Single
marks are the rule; a text that holds a single mark and no double one is put between double marks.
-/

namespace NetworkTopology.Text

/-- The shortest of the escapes of two, four or eight digits that can hold a code point. -/
def escapeCodePoint (n : Nat) : List Char :=
  if n ≤ 0xFF then '\\' :: 'x' :: hexDigits 2 n
  else if n ≤ 0xFFFF then '\\' :: 'u' :: hexDigits 4 n
  else '\\' :: 'U' :: hexDigits 8 n

/-- One character between the given quotation marks. -/
def quotedChar (quotation : Char) (c : Char) : List Char :=
  if c = quotation ∨ c = '\\' then ['\\', c]
  else if c = '\t' then ['\\', 't']
  else if c = '\n' then ['\\', 'n']
  else if c = '\r' then ['\\', 'r']
  else if isPrintable c then [c]
  else escapeCodePoint c.toNat

/-- One code point between the given quotation marks. -/
def quotedPoint (quotation : Char) (n : Nat) : List Char :=
  match character? n with
  | some c => quotedChar quotation c
  | none => escapeCodePoint n

/-- The quotation mark that a text is put between. -/
def quotationMark (cs : List Char) : Char :=
  if '\'' ∈ cs ∧ '"' ∉ cs then '"' else '\''

/-- A text between quotation marks. -/
def quoted (s : String) : String :=
  let quotation := quotationMark s.toList
  String.ofList (quotation :: (points s.toList).flatMap (quotedPoint quotation) ++ [quotation])

end NetworkTopology.Text
