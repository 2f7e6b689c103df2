import NetworkTopology.Json.Basic
import NetworkTopology.Number.Shortest
import NetworkTopology.Text.Quoted

/-!
# Node ids

What names a node, in a graph document or in the managed network: a scalar, or a tuple of node ids.
Numbers name by value, so `1`, `1.0` and `true` are one name with three spellings; `identity` picks
one spelling for each name.  A list of a document names nothing until it is taken for a tuple.
-/

namespace NetworkTopology

/-- A spelling of a node's name. -/
inductive NodeId where
  | null
  | bool (value : Bool)
  | int (value : Int)
  | float (value : Binary64)
  | str (value : String)
  | tuple (items : List NodeId)
  deriving Repr, Inhabited

namespace NodeId

mutual

def sameSpelling : NodeId → NodeId → Bool
  | null, null => true
  | bool x, bool y => x == y
  | int x, int y => x == y
  | float x, float y => x == y
  | str x, str y => x == y
  | tuple xs, tuple ys => sameSpellings xs ys
  | _, _ => false

def sameSpellings : List NodeId → List NodeId → Bool
  | [], [] => true
  | x :: xs, y :: ys => sameSpelling x y && sameSpellings xs ys
  | _, _ => false

end

mutual

theorem sameSpelling_self : ∀ x : NodeId, sameSpelling x x = true
  | null => rfl
  | bool _ => by simp [sameSpelling]
  | int _ => by simp [sameSpelling]
  | float _ => by simp [sameSpelling]
  | str _ => by simp [sameSpelling]
  | tuple xs => by simpa [sameSpelling] using sameSpellings_self xs

theorem sameSpellings_self : ∀ xs : List NodeId, sameSpellings xs xs = true
  | [] => rfl
  | x :: xs => by simp [sameSpellings, sameSpelling_self x, sameSpellings_self xs]

end

mutual

theorem eq_of_sameSpelling : ∀ {x y : NodeId}, sameSpelling x y = true → x = y
  | null, y, h => by cases y <;> simp_all [sameSpelling]
  | bool _, y, h => by cases y <;> simp_all [sameSpelling]
  | int _, y, h => by cases y <;> simp_all [sameSpelling]
  | float _, y, h => by cases y <;> simp_all [sameSpelling]
  | str _, y, h => by cases y <;> simp_all [sameSpelling]
  | tuple xs, y, h => by
    cases y with
    | tuple ys => exact congrArg tuple (eq_of_sameSpellings (by simpa [sameSpelling] using h))
    | _ => simp [sameSpelling] at h

theorem eq_of_sameSpellings : ∀ {xs ys : List NodeId}, sameSpellings xs ys = true → xs = ys
  | [], ys, h => by cases ys <;> simp_all [sameSpellings]
  | x :: xs, ys, h => by
    cases ys with
    | nil => simp [sameSpellings] at h
    | cons y ys =>
      simp only [sameSpellings, Bool.and_eq_true] at h
      rw [eq_of_sameSpelling h.1, eq_of_sameSpellings h.2]

end

instance : DecidableEq NodeId := fun x y =>
  decidable_of_iff (sameSpelling x y = true) ⟨eq_of_sameSpelling, fun h => h ▸ sameSpelling_self x⟩

mutual

/-- The chosen spelling of a name: a number that is an integer is spelled as one. -/
def identity : NodeId → NodeId
  | null => null
  | bool value => int (if value then 1 else 0)
  | int value => int value
  | float value =>
    match value.toInt? with
    | some n => int n
    | none => float value
  | str value => str value
  | tuple items => tuple (identities items)

/-- The chosen spellings of several names. -/
def identities : List NodeId → List NodeId
  | [] => []
  | item :: items => identity item :: identities items

end

/-- Two spellings of one name. -/
def Same (x y : NodeId) : Prop :=
  x.identity = y.identity

instance (x y : NodeId) : Decidable (Same x y) :=
  inferInstanceAs (Decidable (x.identity = y.identity))

theorem Same.refl (x : NodeId) : Same x x := rfl

theorem Same.symm {x y : NodeId} (h : Same x y) : Same y x := Eq.symm h

theorem Same.trans {x y z : NodeId} (h : Same x y) (k : Same y z) : Same x z := Eq.trans h k

/-- A tuple of one item keeps a comma, which tells it from the item in brackets. -/
def shownTuple : List String → String
  | [item] => "(" ++ item ++ ",)"
  | items => "(" ++ String.intercalate ", " items ++ ")"

mutual

/-- A name inside a tuple, as messages show it. -/
def shown : NodeId → String
  | null => "None"
  | bool value => if value then "True" else "False"
  | int value => Decimal.text value
  | float value => value.text
  | str value => Text.quoted value
  | tuple items => shownTuple (shownAll items)

def shownAll : List NodeId → List String
  | [] => []
  | item :: items => shown item :: shownAll items

end

/-- The text of a name: a string stands for itself. -/
def text : NodeId → String
  | str value => value
  | id => id.shown

mutual

/-- Can the text of a name be written: has none of its integers too many digits? -/
def isWritable : NodeId → Bool
  | int value => decide (IntegerLiteral.Writable value)
  | tuple items => areWritable items
  | null | bool _ | float _ | str _ => true

/-- Can the texts of several names be written? -/
def areWritable : List NodeId → Bool
  | [] => true
  | item :: items => isWritable item && areWritable items

end

def write (id : NodeId) : Except Fault String :=
  if id.isWritable then .ok id.text else .error .integerTooLong

/-- The name that a scalar of a document is; lists and objects name nothing. -/
def ofScalar : Json → Except Fault NodeId
  | .null => .ok null
  | .bool value => .ok (bool value)
  | .int value => .ok (int value)
  | .float value => .ok (float value)
  | .str value => .ok (str value)
  | .arr _ | .obj _ => .error .notAName

def ofScalars (items : List Json) : Except Fault (List NodeId) :=
  items.mapM ofScalar

/-- The name of a link's end: a list of scalars is taken for a tuple. -/
def ofEndpoint : Json → Except Fault NodeId
  | .arr items => do return tuple (← ofScalars items)
  | value => ofScalar value

mutual

/-- The name of a node: lists are taken for tuples at every depth. -/
def ofDocument : Json → Except Fault NodeId
  | .arr items => do return tuple (← ofDocuments items)
  | .null => .ok null
  | .bool value => .ok (bool value)
  | .int value => .ok (int value)
  | .float value => .ok (float value)
  | .str value => .ok (str value)
  | .obj _ => .error .notAName

/-- The names of the items of a list. -/
def ofDocuments : List Json → Except Fault (List NodeId)
  | [] => .ok []
  | item :: items => do return (← ofDocument item) :: (← ofDocuments items)

end

/-- The quantity that a number names. -/
def quantity? : NodeId → Option Quantity
  | bool value => some (.ofInt (if value then 1 else 0))
  | int value => some (.ofInt value)
  | float value => some (.ofBinary64 value)
  | _ => none

/-- Strict order of two names: numbers by value, strings by code points.  Other pairs have none. -/
def lt? (x y : NodeId) : Option Bool :=
  match x, y with
  | str x, str y => some (decide (x < y))
  | x, y => do
    let x ← x.quantity?
    let y ← y.quantity?
    return x.lt y

/-- Names in ascending order, if they have a common one. -/
def sorted (ids : List NodeId) : Except Fault (List NodeId) :=
  if ids.length ≤ 1 ∨ ids.all (fun id => id.quantity?.isSome)
      ∨ ids.all (fun id => match id with | str _ => true | _ => false) then
    .ok (ids.mergeSort fun x y => (y.lt? x) != some true)
  else .error .incomparable

mutual

/-- The document of a name: a tuple is written as a list. -/
def toJson : NodeId → Json
  | null => .null
  | bool value => .bool value
  | int value => .int value
  | float value => .float value
  | str value => .str value
  | tuple items => .arr (toJsons items)

def toJsons : List NodeId → List Json
  | [] => []
  | item :: items => toJson item :: toJsons items

end

end NodeId

end NetworkTopology
