/-!
# Listener registries

A registry keeps listeners in the order of their registration and holds no two equal ones; what
makes two listeners equal is a parameter.  Announcing an event calls the listeners that were
registered when the announcement began, each once: a listener may register and remove others while
it is called, and one that fails does not keep the rest from being called.  To fail is to raise an
error that a caller may catch.  What ends the program, as a request to exit or an interrupt does, is
no failure: it ends the announcement, too, and nothing is said about that here.
-/

namespace NetworkTopology

namespace Registry

variable {L σ : Type}

/-- Is an equal listener registered? -/
def contains (same : L → L → Bool) (listeners : List L) (listener : L) : Bool :=
  listeners.any fun existing => same existing listener

/-- Registers a listener, unless an equal one is registered. -/
def add (same : L → L → Bool) (listeners : List L) (listener : L) : List L :=
  if contains same listeners listener then listeners else listeners ++ [listener]

/-- Removes every listener equal to the given one. -/
def remove (same : L → L → Bool) (listeners : List L) (listener : L) : List L :=
  listeners.filter fun existing => !same existing listener

/-- Calls the listeners of a list in order, each in the state that the one before left.  `call`
says whether the listener failed, and `report` takes note of a failure.  The count of failures is
returned. -/
def announce (call : L → σ → σ × Bool) (report : L → σ → σ) : List L → σ → σ × Nat
  | [], state => (state, 0)
  | listener :: listeners, state =>
    match call listener state with
    | (state, false) => announce call report listeners state
    | (state, true) =>
      let (state, failures) := announce call report listeners (report listener state)
      (state, failures + 1)

/-- What a listener does to the registry that calls it: it removes listeners, then registers some,
and then it may fail, with an error that the announcement catches. -/
structure Reaction (L : Type) where
  removes : List L := []
  adds : List L := []
  fails : Bool := false
  deriving Repr

/-- A registry with the calls and failures of its announcements. -/
structure Roll (L : Type) where
  listeners : List L := []
  calls : List L := []
  failed : List L := []
  deriving Repr

/-- The registry after a listener has done its part. -/
def react (same : L → L → Bool) (reaction : Reaction L) (listeners : List L) : List L :=
  reaction.adds.foldl (add same) (reaction.removes.foldl (remove same) listeners)

/-- Announces an event to listeners whose reactions are known. -/
def notify (same : L → L → Bool) (reactions : L → Reaction L) (roll : Roll L) : Roll L × Nat :=
  announce
    (fun listener roll =>
      ({ roll with
          listeners := react same (reactions listener) roll.listeners
          calls := roll.calls ++ [listener] },
        (reactions listener).fails))
    (fun listener roll => { roll with failed := roll.failed ++ [listener] })
    roll.listeners roll

end Registry

end NetworkTopology
