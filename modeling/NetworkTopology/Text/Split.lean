/-!
# Splitting texts

A text is split at every separator; between two separators, and before the first and behind the last
one, there is always a part, which may be empty.  It is cut at the first separator only.
-/

namespace NetworkTopology.Text

/-- The parts of a text between separators. -/
def split (isSeparator : Char → Bool) : List Char → List (List Char)
  | [] => [[]]
  | c :: cs =>
    match split isSeparator cs with
    | [] => [[c]]
    | part :: parts => if isSeparator c then [] :: part :: parts else (c :: part) :: parts

/-- What stands before the first separator, and what stands behind it. -/
def cut (isSeparator : Char → Bool) (cs : List Char) : List Char × List Char :=
  (cs.takeWhile fun c => !isSeparator c, (cs.dropWhile fun c => !isSeparator c).drop 1)

end NetworkTopology.Text
