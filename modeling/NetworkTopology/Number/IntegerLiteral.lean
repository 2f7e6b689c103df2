import NetworkTopology.Number.Decimal
import NetworkTopology.Text.Blank
import NetworkTopology.Text.Digit

/-!
# Integer literals

Text is read as an integer after trimming white space: an optional sign, then decimal digits of any
script with single underscores between them.  Literals are limited to `digitLimit` digits in both
directions: a longer text is not read and a longer integer is not written.
-/

namespace NetworkTopology.IntegerLiteral

open NetworkTopology.Text (digitValue? trimBy whiteSpace)

/-- The greatest number of digits of a literal; leading zeros count, sign and underscores do not. -/
def digitLimit : Nat := 4300

/-- The least natural number with more than `digitLimit` digits. -/
def bound : Nat := Nat.pow 10 digitLimit

/-- The values of digits that single underscores may separate; at least one digit is needed. -/
def digits? : List Char → Option (List Nat)
  | [] => none
  | [c] => (digitValue? c).map ([·])
  | c :: '_' :: rest => do
    let d ← digitValue? c
    let ds ← digits? rest
    return d :: ds
  | c :: rest => do
    let d ← digitValue? c
    let ds ← digits? rest
    return d :: ds

/-- Reads an unsigned literal within the limit. -/
def natural? (cs : List Char) : Option Nat := do
  let ds ← digits? cs
  if ds.length ≤ digitLimit then some (Decimal.ofDigits ds) else none

/-- Reads a literal that has no white space around it. -/
def signed? : List Char → Option Int
  | '+' :: cs => (natural? cs).map Int.ofNat
  | '-' :: cs => (natural? cs).map fun n => -(n : Int)
  | cs => (natural? cs).map Int.ofNat

/-- Reads a literal, white space around it allowed. -/
def read? (cs : List Char) : Option Int :=
  signed? (trimBy whiteSpace.holds cs)

/-- An integer that a literal can write. -/
def Writable (n : Int) : Prop :=
  n.natAbs < bound

instance (n : Int) : Decidable (Writable n) :=
  inferInstanceAs (Decidable (n.natAbs < bound))

end NetworkTopology.IntegerLiteral
