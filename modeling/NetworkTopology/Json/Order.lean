import NetworkTopology.Json.Basic

/-!
# Order of documents

Documents are compared by what they stand for: numbers by value, whatever their spelling, texts by
code points, and lists by the first place where they differ.  Other pairs of documents may be equal
but have no order.
-/

namespace NetworkTopology.Json

/-- The quantity that a number or a truth value stands for. -/
def quantity? : Json → Option Quantity
  | bool value => some (.ofInt (if value then 1 else 0))
  | int value => some (.ofInt value)
  | float value => some (.ofBinary64 value)
  | null | str _ | arr _ | obj _ => none

mutual

/-- Do two documents stand for the same? -/
def equals (x y : Json) : Bool :=
  match x, y with
  | null, null => true
  | str x, str y => x == y
  | arr xs, arr ys => equalItems xs ys
  | obj xs, obj ys => xs.length == ys.length && equalFields xs ys
  | x, y =>
    match x.quantity?, y.quantity? with
    | some x, some y => x.eq y
    | _, _ => false

/-- Do the items of two lists stand for the same, place by place? -/
def equalItems : List Json → List Json → Bool
  | [], [] => true
  | x :: xs, y :: ys => equals x y && equalItems xs ys
  | _, _ => false

/-- Does each of some fields stand for the same as the field of its name among others? -/
def equalFields : List (String × Json) → Fields → Bool
  | [], _ => true
  | (name, x) :: xs, ys =>
    (match Fields.get? ys name with
      | some y => equals x y
      | none => false) && equalFields xs ys

end

mutual

/-- Is the first document above the second?  There is no answer when they have no order. -/
def exceeds? (x y : Json) : Option Bool :=
  match x, y with
  | str x, str y => some (decide (y < x))
  | arr xs, arr ys => itemsExceed? xs ys
  | x, y => do
    let x ← x.quantity?
    let y ← y.quantity?
    return y.lt x

/-- Is the first list above the second?  The first place where they differ decides, and a list is
above its beginnings. -/
def itemsExceed? : List Json → List Json → Option Bool
  | [], _ => some false
  | _ :: _, [] => some true
  | x :: xs, y :: ys => if equals x y then itemsExceed? xs ys else exceeds? x y

end

end NetworkTopology.Json
