import NetworkTopology.Text.CodePoints

/-!
# Blank characters

Two sets of blank characters are in use.  Integer literals and settings are trimmed of what has the
Unicode property `White_Space`; names and ids are trimmed of the four information separators, too,
which lack that property.
-/

namespace NetworkTopology.Text

/-- The Unicode property `White_Space`. -/
def whiteSpace : CodePoints :=
  [(0x09, 0x0D), (0x20, 0x20), (0x85, 0x85), (0xA0, 0xA0), (0x1680, 0x1680), (0x2000, 0x200A),
    (0x2028, 0x2029), (0x202F, 0x202F), (0x205F, 0x205F), (0x3000, 0x3000)]

/-- White space together with the four information separators. -/
def blanks : CodePoints :=
  (0x1C, 0x1F) :: whiteSpace

def isBlank (c : Char) : Bool :=
  blanks.holds c

/-- Removes the characters of a class from both ends of a text. -/
def trimBy (p : Char → Bool) (cs : List Char) : List Char :=
  ((cs.dropWhile p).reverse.dropWhile p).reverse

/-- Removes blanks from both ends of a text. -/
def trim (cs : List Char) : List Char :=
  trimBy isBlank cs

end NetworkTopology.Text
