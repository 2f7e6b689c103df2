import NetworkTopology.Fault
import NetworkTopology.Number.Binary64
import NetworkTopology.Number.IntegerLiteral
import NetworkTopology.Text.Spelling

/-!
# Documents

The values of a JSON document.  Integers and doubles are kept apart, and the fields of an object
keep the order in which they were first set.
-/

namespace NetworkTopology

/-- A document. -/
inductive Json where
  | null
  | bool (value : Bool)
  | int (value : Int)
  | float (value : Binary64)
  | str (value : String)
  | arr (items : List Json)
  | obj (fields : List (String × Json))
  deriving Repr, Inhabited

/-- Named values in the order in which the names were first set. -/
abbrev Fields := List (String × Json)

namespace Fields

def get? : Fields → String → Option Json
  | [], _ => none
  | (n, v) :: rest, name => if n = name then some v else get? rest name

/-- Sets a field: in its place when it is there, at the end when it is new. -/
def set : Fields → String → Json → Fields
  | [], name, value => [(name, value)]
  | (n, v) :: rest, name, value =>
    if n = name then (n, value) :: rest else (n, v) :: set rest name value

/-- Sets the fields of the second collection, in order, in the first. -/
def merge (fields more : Fields) : Fields :=
  more.foldl (fun result field => result.set field.1 field.2) fields

/-- Removes the fields of the given names. -/
def without (fields : Fields) (names : List String) : Fields :=
  fields.filter fun field => !names.contains field.1

/-- A field reads as it was last set. -/
theorem get?_set_self (fields : Fields) (name : String) (value : Json) :
    (fields.set name value).get? name = some value := by
  induction fields with
  | nil => simp [set, get?]
  | cons field rest ih =>
    obtain ⟨n, v⟩ := field
    by_cases h : n = name <;> simp [set, get?, h, ih]

/-- Setting a field leaves the others alone. -/
theorem get?_set_of_ne (fields : Fields) {name other : String} (value : Json) (h : other ≠ name) :
    (fields.set name value).get? other = fields.get? other := by
  induction fields with
  | nil => simp [set, get?, Ne.symm h]
  | cons field rest ih =>
    obtain ⟨n, v⟩ := field
    by_cases hn : n = name
    · subst hn
      simp [set, get?, Ne.symm h]
    · simp [set, get?, hn, ih]

end Fields

namespace Json

mutual

/-- Are two documents the same, order of fields included? -/
def same : Json → Json → Bool
  | null, null => true
  | bool x, bool y => x == y
  | int x, int y => x == y
  | float x, float y => x == y
  | str x, str y => x == y
  | arr xs, arr ys => sameItems xs ys
  | obj xs, obj ys => sameFields xs ys
  | _, _ => false

def sameItems : List Json → List Json → Bool
  | [], [] => true
  | x :: xs, y :: ys => same x y && sameItems xs ys
  | _, _ => false

def sameFields : List (String × Json) → List (String × Json) → Bool
  | [], [] => true
  | (n, x) :: xs, (m, y) :: ys => n == m && same x y && sameFields xs ys
  | _, _ => false

end

mutual

theorem same_self : ∀ x : Json, same x x = true
  | null => rfl
  | bool _ => by simp [same]
  | int _ => by simp [same]
  | float _ => by simp [same]
  | str _ => by simp [same]
  | arr xs => by simpa [same] using sameItems_self xs
  | obj xs => by simpa [same] using sameFields_self xs

theorem sameItems_self : ∀ xs : List Json, sameItems xs xs = true
  | [] => rfl
  | x :: xs => by simp [sameItems, same_self x, sameItems_self xs]

theorem sameFields_self : ∀ xs : List (String × Json), sameFields xs xs = true
  | [] => rfl
  | (_, x) :: xs => by simp [sameFields, same_self x, sameFields_self xs]

end

mutual

theorem eq_of_same : ∀ {x y : Json}, same x y = true → x = y
  | null, y, h => by cases y <;> simp_all [same]
  | bool _, y, h => by cases y <;> simp_all [same]
  | int _, y, h => by cases y <;> simp_all [same]
  | float _, y, h => by cases y <;> simp_all [same]
  | str _, y, h => by cases y <;> simp_all [same]
  | arr xs, y, h => by
    cases y with
    | arr ys => exact congrArg arr (eq_of_sameItems (by simpa [same] using h))
    | _ => simp [same] at h
  | obj xs, y, h => by
    cases y with
    | obj ys => exact congrArg obj (eq_of_sameFields (by simpa [same] using h))
    | _ => simp [same] at h

theorem eq_of_sameItems : ∀ {xs ys : List Json}, sameItems xs ys = true → xs = ys
  | [], ys, h => by cases ys <;> simp_all [sameItems]
  | x :: xs, ys, h => by
    cases ys with
    | nil => simp [sameItems] at h
    | cons y ys =>
      simp only [sameItems, Bool.and_eq_true] at h
      rw [eq_of_same h.1, eq_of_sameItems h.2]

theorem eq_of_sameFields : ∀ {xs ys : List (String × Json)}, sameFields xs ys = true → xs = ys
  | [], ys, h => by cases ys <;> simp_all [sameFields]
  | (n, x) :: xs, ys, h => by
    cases ys with
    | nil => simp [sameFields] at h
    | cons y ys =>
      obtain ⟨m, y⟩ := y
      simp only [sameFields, Bool.and_eq_true, beq_iff_eq] at h
      rw [h.1.1, eq_of_same h.1.2, eq_of_sameFields h.2]

end

theorem same_iff {x y : Json} : same x y = true ↔ x = y :=
  ⟨eq_of_same, fun h => h ▸ same_self x⟩

instance : DecidableEq Json := fun _ _ => decidable_of_iff _ same_iff

/-- A document that stands for "yes" where a choice is read from it: anything but null, false, a
zero, and what is empty. -/
def isTruthy : Json → Bool
  | null => false
  | bool value => value
  | int value => value != 0
  | float value => !value.isZero
  | str value => value != ""
  | arr items => !items.isEmpty
  | obj fields => !fields.isEmpty

/-- The first document if it is truthy, the second otherwise. -/
def orElse (x y : Json) : Json :=
  if x.isTruthy then x else y

/-- Reads a document as an integer: a number loses its fraction, a text is read as a literal. -/
def toInteger : Json → Except Fault Int
  | bool value => .ok (if value then 1 else 0)
  | int value => .ok value
  | float .nan => .error .undefinedNumber
  | float (.infinite _) => .error .infiniteNumber
  | float value => .ok (value.truncate?.getD 0)
  | str value =>
    match IntegerLiteral.read? value.toList with
    | some n => .ok n
    | none => .error .notAnInteger
  | null | arr _ | obj _ => .error .notNumeric

mutual

/-- Can a document be written: has none of its integers too many digits? -/
def isWritable : Json → Bool
  | int value => decide (IntegerLiteral.Writable value)
  | arr items => areWritable items
  | obj fields => fieldsWritable fields
  | null | bool _ | float _ | str _ => true

/-- Can all items of a list be written? -/
def areWritable : List Json → Bool
  | [] => true
  | item :: items => isWritable item && areWritable items

/-- Can the values of all fields be written? -/
def fieldsWritable : List (String × Json) → Bool
  | [] => true
  | (_, value) :: fields => isWritable value && fieldsWritable fields

end

def fields? : Json → Option Fields
  | obj fields => some fields
  | _ => none

/-- The items that a document runs through: those of a list, the code points of a text, the names of
an object. -/
def sequence : Json → Except Fault (List Json)
  | arr items => .ok items
  | str value => .ok ((Text.points value.toList).map fun n => str (String.ofList (Text.spelling n)))
  | obj fields => .ok (fields.map fun field => str field.1)
  | null | bool _ | int _ | float _ => .error .notASequence

end Json

end NetworkTopology
