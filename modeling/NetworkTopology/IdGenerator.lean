import NetworkTopology.Fault
import NetworkTopology.Number.IntegerLiteral

/-!
# Id generators

An id is a stem followed by a counter.  A generator starts its counter past every id of its stem
that is in use, on first use and after a reset, and then counts on, passing over ids that are taken.
The counter moves past every candidate that was tried last, also when trying failed, so no id is
given out twice between two resets.  The search needs no bound on the number of taken ids: it ends
at the latest where candidates have more digits than an id may have.
-/

namespace NetworkTopology

/-- A generator of ids. -/
structure IdGenerator where
  stem : String
  counter : Int := 0
  initialized : Bool := false
  deriving DecidableEq, Repr, Inhabited

namespace IdGenerator

/-- A generator that has not been used. -/
def make (stem : Option String) : Except Fault IdGenerator :=
  match stem with
  | some stem => .ok { stem }
  | none => .error .missingPrefix

/-- The generator as it was made. -/
def reset (g : IdGenerator) : IdGenerator :=
  { stem := g.stem }

/-- The integer that an id ends in after as many characters as the stem has, blanks around it
allowed; zero if none can be read there. -/
def suffix (stem : String) (id : String) : Int :=
  (IntegerLiteral.read? (Text.trim (id.toList.drop stem.length))).getD 0

/-- Does an id start with the stem? -/
def hasStem (stem : String) (id : String) : Bool :=
  stem.toList.isPrefixOf id.toList

/-- The counter to start with: one past the greatest integer of the ids of the stem. -/
def start (stem : String) (ids : List String) : Int :=
  match ((ids.filter (hasStem stem)).map (suffix stem)).max? with
  | some greatest => greatest + 1
  | none => 0

/-- Sets the counter on first use. -/
def prime (g : IdGenerator) (content : Except Fault (List String)) :
    Except Fault IdGenerator :=
  if g.initialized then .ok g
  else do
    let ids ← content
    return { g with counter := start g.stem ids, initialized := true }

/-- Tries the candidates from a counter on.  The last counter tried is returned with the outcome. -/
def search (stem : String) (taken : String → Except Fault Bool) (counter : Int) :
    Int × Except Fault String :=
  if _h : IntegerLiteral.Writable counter then
    match taken (stem ++ Decimal.text counter) with
    | .error fault => (counter, .error fault)
    | .ok false => (counter, .ok (stem ++ Decimal.text counter))
    | .ok true => search stem taken (counter + 1)
  else (counter, .error .integerTooLong)
termination_by ((IntegerLiteral.bound : Int) - counter).toNat
decreasing_by
  unfold IntegerLiteral.Writable at _h
  omega

/-- The next free id.  A generator whose start cannot be found stays as it is. -/
def next (g : IdGenerator) (content : Except Fault (List String))
    (taken : String → Except Fault Bool) : IdGenerator × Except Fault String :=
  match g.prime content with
  | .error fault => (g, .error fault)
  | .ok g =>
    let (last, result) := search g.stem taken g.counter
    ({ g with counter := last + 1 }, result)

/-- Looks an id up by running through the content. -/
def scan (content : Except Fault (List String)) (id : String) : Except Fault Bool := do
  let ids ← content
  return ids.contains id

end IdGenerator

end NetworkTopology
