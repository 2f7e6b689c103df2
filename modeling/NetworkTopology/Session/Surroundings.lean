import NetworkTopology.Registry
import NetworkTopology.Session.Command

/-!
# The surroundings of a topology

Who listens to the two stores, what the listeners are scripted to do, and what has been heard and
logged.  A listener takes note of each event; for some kinds of event it may also run steps of its
own, a limited number of times, and it may fail.
-/

namespace NetworkTopology.Session

/-- A scripted listener.  It takes note of all events, but acts on those of its kinds only. -/
structure Listener where
  name : String
  kinds : Option (List EventKind) := none
  steps : List Step := []
  /-- How many times the steps are run. -/
  limit : Nat := 1
  fails : Bool := false
  deriving Repr

/-- Does the listener act on events of a kind? -/
def Listener.acts (l : Listener) (kind : EventKind) : Bool :=
  match l.kinds with
  | some kinds => kinds.contains kind
  | none => true

/-- Who is told of the changes of a store: the REST interface, or a listener. -/
inductive Subscriber where
  | api
  | listener (name : String)
  deriving DecidableEq, Repr

def Subscriber.name : Subscriber → String
  | api => "api"
  | listener name => name

/-- A call of a listener: the store and its size at that moment, the event, and the answers to the
steps that the listener ran. -/
structure Call (α : Type) where
  listener : String
  store : StoreKind
  size : Nat
  event : ChangeEvent
  answers : List α
  deriving Repr

/-- The answer to a step: its outcome, the sizes of the two stores afterwards, and the calls and log
records that it led to outside of steps of its own. -/
structure Answer where
  outcome : Except Fault Outcome
  sizes : Nat × Nat
  calls : List (Call Answer)
  log : List LogRecord

/-- What is heard and logged during a step. -/
structure Journal where
  calls : List (Call Answer) := []
  log : List LogRecord := []

/-- Everything around a topology that a session keeps track of. -/
structure Surroundings where
  onVertices : List Subscriber := []
  onEdges : List Subscriber := []
  /-- How often each listener has run its steps. -/
  runs : List (String × Nat) := []
  /-- Has the REST interface heard of any change? -/
  touched : Bool := false
  /-- The number of the graph to load. -/
  graph : Nat := 0
  journal : Journal := {}

namespace Surroundings

def subscribers (s : Surroundings) : StoreKind → List Subscriber
  | .vertices => s.onVertices
  | .edges => s.onEdges

def setSubscribers (s : Surroundings) (kind : StoreKind) (subscribers : List Subscriber) :
    Surroundings :=
  match kind with
  | .vertices => { s with onVertices := subscribers }
  | .edges => { s with onEdges := subscribers }

/-- Subscribes to a store, unless that is done already. -/
def subscribe (s : Surroundings) (kind : StoreKind) (subscriber : Subscriber) : Surroundings :=
  s.setSubscribers kind (Registry.add (· == ·) (s.subscribers kind) subscriber)

/-- Ends a subscription. -/
def unsubscribe (s : Surroundings) (kind : StoreKind) (subscriber : Subscriber) : Surroundings :=
  s.setSubscribers kind (Registry.remove (· == ·) (s.subscribers kind) subscriber)

/-- How often a listener has run its steps. -/
def runsOf (s : Surroundings) (name : String) : Nat :=
  (s.runs.lookup name).getD 0

def countRun (s : Surroundings) (name : String) : Surroundings :=
  { s with runs := (name, s.runsOf name + 1) :: s.runs.filter fun entry => entry.1 != name }

/-- Takes note of a call. -/
def heard (s : Surroundings) (call : Call Answer) : Surroundings :=
  { s with journal := { s.journal with calls := s.journal.calls ++ [call] } }

def logged (s : Surroundings) (record : LogRecord) : Surroundings :=
  { s with journal := { s.journal with log := s.journal.log ++ [record] } }

end Surroundings

end NetworkTopology.Session
