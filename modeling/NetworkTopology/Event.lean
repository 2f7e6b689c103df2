import NetworkTopology.Entity.Basic

/-!
# Change events

An event says what one mutation of a store changed.  Its kind is the single way in which the content
changed, when there is one.
-/

namespace NetworkTopology

/-- What one mutation changed in a namespace. -/
structure ChangeEvent where
  ns : String
  added : List Entity := []
  updated : List Entity := []
  removed : List Entity := []
  cleared : Bool := false
  deriving DecidableEq, Repr

/-- The kinds of change. -/
inductive EventKind where
  | added
  | updated
  | removed
  | cleared
  | changed
  deriving DecidableEq, Repr

def EventKind.name : EventKind → String
  | added => "added"
  | updated => "updated"
  | removed => "removed"
  | cleared => "cleared"
  | changed => "changed"

namespace ChangeEvent

/-- Clearing outranks all else; an event that changed the content in one way only is of that kind,
and any other is just a change. -/
def kind (event : ChangeEvent) : EventKind :=
  if event.cleared then .cleared
  else match event.added, event.updated, event.removed with
    | _ :: _, [], [] => .added
    | [], _ :: _, [] => .updated
    | [], [], _ :: _ => .removed
    | _, _, _ => .changed

/-- Nothing changed. -/
def isEmpty (event : ChangeEvent) : Bool :=
  event.added.isEmpty && event.updated.isEmpty && event.removed.isEmpty && !event.cleared

/-- Events are compared like the entities in them, by key. -/
def same (x y : ChangeEvent) : Bool :=
  x.ns == y.ns && x.added.map Entity.key == y.added.map Entity.key
    && x.updated.map Entity.key == y.updated.map Entity.key
    && x.removed.map Entity.key == y.removed.map Entity.key && x.cleared == y.cleared

end ChangeEvent

end NetworkTopology
