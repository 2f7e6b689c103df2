import NetworkTopology.Text.Hexadecimal
import NetworkTopology.Text.Split

/-!
# Tables of code points

A large table is kept as a text of rows with spaces and line ends between them; a row is a list of
hexadecimal numbers with dots between them.
-/

namespace NetworkTopology.Text

/-- The number that hexadecimal digits write. -/
def hexNumber (digits : List Char) : Nat :=
  digits.foldl (fun n c => 16 * n + (hexValue? c).getD 0) 0

/-- The numbers of a row. -/
def row (cs : List Char) : List Nat :=
  (split (· == '.') cs).map hexNumber

def rows (table : String) : List (List Nat) :=
  ((split (fun c => c = ' ' || c = '\n') table.toList).filter fun cs => !cs.isEmpty).map row

end NetworkTopology.Text
