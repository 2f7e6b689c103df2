import NetworkTopology.Text.Fold.Table

/-!
# Putting case and form aside

Two spellings of a name that differ in case, or in the form of a character only, are taken for one
name.  `fold` takes a character to the spelling that stands for all of them.
-/

namespace NetworkTopology.Text

namespace Fold

/-- The form that a run gives to a code point in it. -/
def ofRun? (n : Nat) : List Nat → Option (List Nat)
  | first :: last :: step :: form =>
    if first ≤ n ∧ n ≤ last ∧ (n - first) % step = 0 then
      some (form.dropLast ++ (form.getLast?.map (· + (n - first))).toList)
    else none
  | _ => none

/-- The form that a row of a single character gives to a code point. -/
def ofSingle? (n : Nat) : List Nat → Option (List Nat)
  | code :: form => if code = n then some form else none
  | [] => none

/-- The form of a code point, if it has one other than itself. -/
def form? (n : Nat) : Option (List Nat) :=
  (runs.findSome? (ofRun? n)).or (singles.findSome? (ofSingle? n))

end Fold

/-- The spelling of a character with case and form put aside. -/
def fold (c : Char) : List Char :=
  if c.toNat < 0x80 then [c.toLower]
  else match Fold.form? c.toNat with
    | some form => form.map Char.ofNat
    | none => [c]

end NetworkTopology.Text
