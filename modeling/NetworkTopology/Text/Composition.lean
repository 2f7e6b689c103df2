import NetworkTopology.Text.Composition.Table

/-!
# Composed spelling

A character with marks can be spelled in several ways: as composites, or as a base with marks behind
it, in one order or another.  The composed spelling is reached by taking composites apart, putting
the marks behind each base in the order of their classes, and joining again what composites stand
for.  A mark is not joined to its base across another one of its own class.
-/

namespace NetworkTopology.Text

namespace Composition

/-- The class of a mark; whatever is no mark has class zero. -/
def classOf (c : Char) : Nat :=
  (classes.findSome? fun
    | [first, last, k] => if first ≤ c.toNat ∧ c.toNat ≤ last then some k else none
    | _ => none).getD 0

/-- The base and the mark that a composite stands for. -/
def parts? (c : Char) : Option (Char × Char) :=
  composites.findSome? fun
    | [composite, base, mark] =>
      if composite = c.toNat then some (Char.ofNat base, Char.ofNat mark) else none
    | _ => none

/-- The Korean syllable that a leading consonant and a vowel make, or a syllable without a trailing
consonant and one. -/
def syllable? (x y : Nat) : Option Nat :=
  if 0x1100 ≤ x ∧ x < 0x1113 ∧ 0x1161 ≤ y ∧ y < 0x1176 then
    some (0xAC00 + ((x - 0x1100) * 21 + (y - 0x1161)) * 28)
  else if 0xAC00 ≤ x ∧ x < 0xD7A4 ∧ (x - 0xAC00) % 28 = 0 ∧ 0x11A7 < y ∧ y < 0x11C3 then
    some (x + (y - 0x11A7))
  else none

/-- The composite of a base and a mark. -/
def composite? (base mark : Char) : Option Char :=
  (syllable? base.toNat mark.toNat).map Char.ofNat <|> composites.findSome? fun
    | [composite, x, y] =>
      if x = base.toNat ∧ y = mark.toNat then some (Char.ofNat composite) else none
    | _ => none

/-- Takes a character apart, at most so many times over. -/
def takeApart : Nat → Char → List Char
  | 0, c => [c]
  | depth + 1, c =>
    match parts? c with
    | some (base, mark) => takeApart depth base ++ [mark]
    | none => [c]

/-- Puts a character in front of others, behind the marks of lower classes at their start if it is a
mark. -/
def place (c : Char) : List Char → List Char
  | [] => [c]
  | d :: cs =>
    if 0 < classOf d ∧ classOf d < classOf c then d :: place c cs else c :: d :: cs

/-- Sorts the marks behind each base by class. -/
def sortMarks : List Char → List Char
  | [] => []
  | c :: cs => place c (sortMarks cs)

/-- Joins what follows to a base.  `marks` are those behind the base that could not be joined, the
last one first; a mark can be joined if the last of them is of a lower class. -/
def join : Option Char → List Char → List Char → List Char
  | base, marks, [] => base.toList ++ marks.reverse
  | none, marks, c :: cs =>
    if classOf c = 0 then marks.reverse ++ join (some c) [] cs else join none (c :: marks) cs
  | some base, marks, c :: cs =>
    let free := marks.head?.all fun mark => classOf mark < classOf c
    match if free then composite? base c else none with
    | some composite => join (some composite) marks cs
    | none =>
      if classOf c = 0 then base :: marks.reverse ++ join (some c) [] cs
      else join (some base) (c :: marks) cs

end Composition

/-- The composed spelling of a text.  No composite is taken apart more than three times over. -/
def composed (cs : List Char) : List Char :=
  Composition.join none [] (Composition.sortMarks (cs.flatMap (Composition.takeApart 3)))

end NetworkTopology.Text
