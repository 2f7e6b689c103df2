import NetworkTopology.Text.Composition
import NetworkTopology.Text.Direction
import NetworkTopology.Text.Fold

/-!
# Prepared names

The one spelling under which a name in any script is known: case and form are put aside, and the
rest is composed.  A name with a character that does not show, or that is kept for private use, or
without a direction to read it in, cannot be prepared.
-/

namespace NetworkTopology.Text

/-- The characters beyond ASCII that no name may hold: spaces, controls, and what is kept for other
uses. -/
def prohibited : CodePoints :=
  [(0x80, 0xA0), (0x340, 0x341), (0x6DD, 0x6DD), (0x70F, 0x70F), (0x1680, 0x1680),
    (0x180E, 0x180E), (0x2000, 0x200F), (0x2028, 0x202F), (0x205F, 0x2063), (0x206A, 0x206F),
    (0x2FF0, 0x2FFB), (0x3000, 0x3000), (0xE000, 0xF8FF), (0xFDD0, 0xFDEF), (0xFEFF, 0xFEFF),
    (0xFFF9, 0xFFFF), (0x1D173, 0x1D17A), (0x1FFFE, 0x1FFFF), (0x2FFFE, 0x2FFFF),
    (0x3FFFE, 0x3FFFF), (0x4FFFE, 0x4FFFF), (0x5FFFE, 0x5FFFF), (0x6FFFE, 0x6FFFF),
    (0x7FFFE, 0x7FFFF), (0x8FFFE, 0x8FFFF), (0x9FFFE, 0x9FFFF), (0xAFFFE, 0xAFFFF),
    (0xBFFFE, 0xBFFFF), (0xCFFFE, 0xCFFFF), (0xDFFFE, 0xDFFFF), (0xE0001, 0xE0001),
    (0xE0020, 0xE007F), (0xEFFFE, 0x10FFFF)]

/-- The prepared spelling of a name. -/
def prepared? (cs : List Char) : Option (List Char) :=
  let spelling := composed (cs.flatMap fold)
  if !spelling.any prohibited.holds && hasOneDirection spelling then some spelling else none

end NetworkTopology.Text
