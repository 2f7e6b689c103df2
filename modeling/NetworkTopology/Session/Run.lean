import NetworkTopology.Session.Surroundings

/-!
# Running a session

A session is a topology in its surroundings that is driven by steps.  Every change is announced to
the subscribers of its store, and a listener may run steps in turn, whose changes are announced
again.  Each such run uses up one of the runs that some listener has left, so nesting is never
deeper than the sum of all limits; `Session.watch` unfolds what subscribers do to that depth.
-/

namespace NetworkTopology

/-- What stays the same during a session: the listeners, how providers refresh, and whether there is
a REST interface. -/
structure Session where
  listeners : List Session.Listener := []
  refreshment : Session.Refreshment := .none
  served : Bool := false

namespace Session

def listener? (s : Session) (name : String) : Option Listener :=
  s.listeners.find? fun l => l.name == name

/-- Refreshes from the chosen graph. -/
def refresh (s : Session) (watch : Observation Surroundings) (p : Nat)
    (t : Topology Surroundings) : Topology Surroundings × Except Fault Unit :=
  match s.refreshment with
  | .none => (t, .ok ())
  | .graphs sources => t.refresh watch p (GraphSource.loadFrom sources t.observers.graph)

/-- Registers or removes a listener that is known. -/
def onKnown (s : Session) (name : String) (change : Subscriber → Surroundings → Surroundings)
    (t : Topology Surroundings) : Topology Surroundings × Except Fault Outcome :=
  match s.listener? name with
  | some _ => ({ t with observers := change (.listener name) t.observers }, .ok .nothing)
  | none => (t, .error (.unknownListener name))

/-- Answers a request to the REST interface, if there is one. -/
def serve (s : Session) (watch : Observation Surroundings) (request : Rest.Request)
    (t : Topology Surroundings) : Topology Surroundings × Except Fault Outcome :=
  if s.served then
    let api : Rest.Api Surroundings :=
      { watch, provider := 0, refresh := s.refresh watch 0, updated := Surroundings.touched }
    let (t, response) := api.handle request t
    (t, response.map .response)
  else (t, .error .notOffered)

/-- Carries out a command that the target takes. -/
def carryOut (s : Session) (watch : Observation Surroundings) (target : Target)
    (t : Topology Surroundings) : Command → Topology Surroundings × Except Fault Outcome
  | .query question => (t, question.evaluate target t)
  | .addVertices vertices => (t.addVertices watch vertices, .ok .nothing)
  | .removeVertices keys => (t.removeVertices watch keys, .ok .nothing)
  | .clearVertices => (t.clearVertices watch, .ok .nothing)
  | .addEdges edges => (t.addEdges watch edges, .ok .nothing)
  | .removeEdges keys => (t.removeEdges watch keys, .ok .nothing)
  | .clearEdges => (t.clearEdges watch, .ok .nothing)
  | .connect start finish =>
    let (t, edge) := t.connect watch target.number start finish
    (t, edge.map fun edge => .entity (edge.map .edge))
  | .removeWithEdges keys =>
    let (t, result) := t.removeAllWithEdges watch keys
    (t, result.map fun _ => .nothing)
  | .reset => (t.reset watch target.number, .ok .nothing)
  | .refresh =>
    let (t, result) := s.refresh watch target.number t
    (t, result.map fun _ => .nothing)
  | .clearCounters => (t.clearCounters target.number, .ok .nothing)
  | .nextVertexId =>
    let (t, id) := t.nextVertexId target.number
    (t, id.map .text)
  | .nextEdgeId =>
    let (t, id) := t.nextEdgeId target.number
    (t, id.map .text)
  | .listen kind name => s.onKnown name (fun subscriber o => o.subscribe kind subscriber) t
  | .unlisten kind name => s.onKnown name (fun subscriber o => o.unsubscribe kind subscriber) t
  | .request request => s.serve watch request t
  | .useGraph number => ({ t with observers := { t.observers with graph := number } }, .ok .nothing)

/-- Carries out a step, if it can be. -/
def execute (s : Session) (watch : Observation Surroundings) (step : Step)
    (t : Topology Surroundings) : Topology Surroundings × Except Fault Outcome :=
  match step.admitted with
  | .ok () => s.carryOut watch step.target t step.command
  | .error fault => (t, .error fault)

/-- Puts another journal in the place of the current one. -/
def setJournal (journal : Journal) (t : Topology Surroundings) : Topology Surroundings :=
  { t with observers := { t.observers with journal } }

/-- The answer to a step that led to an outcome and a topology. -/
def answerOf (outcome : Except Fault Outcome) (t : Topology Surroundings) : Answer :=
  { outcome, sizes := (t.vertices.size, t.edges.size), calls := t.observers.journal.calls
    log := t.observers.journal.log }

/-- Carries out a step and answers it, with a journal of its own. -/
def perform (s : Session) (watch : Observation Surroundings) (step : Step)
    (t : Topology Surroundings) : Topology Surroundings × Answer :=
  let (after, outcome) := s.execute watch step (setJournal {} t)
  (setJournal t.observers.journal after, answerOf outcome after)

/-- A way to perform a step. -/
abbrev Performer := Step → Topology Surroundings → Topology Surroundings × Answer

def performAll (perform : Performer) :
    List Step → Topology Surroundings → Topology Surroundings × List Answer
  | [], t => (t, [])
  | step :: steps, t =>
    let (t, answer) := perform step t
    let (t, answers) := performAll perform steps t
    (t, answer :: answers)

/-- Calls a listener: it takes note of the event, and if it acts on the event's kind it runs its
steps, while it has runs left, and then says whether it fails. -/
def callListener (perform : Performer) (kind : StoreKind) (event : ChangeEvent)
    (l : Listener) (t : Topology Surroundings) : Topology Surroundings × Bool :=
  let size := Query.size kind t
  let acts := l.acts event.kind
  let (t, answers) :=
    if acts ∧ !l.steps.isEmpty ∧ t.observers.runsOf l.name < l.limit then
      performAll perform l.steps { t with observers := t.observers.countRun l.name }
    else (t, [])
  let call : Call Answer := { listener := l.name, store := kind, size, event, answers }
  ({ t with observers := t.observers.heard call }, acts && l.fails)

def call (s : Session) (perform : Performer) (kind : StoreKind) (event : ChangeEvent)
    (subscriber : Subscriber) (t : Topology Surroundings) : Topology Surroundings × Bool :=
  match subscriber with
  | .api => ({ t with observers := { t.observers with touched := true } }, false)
  | .listener name =>
    match s.listener? name with
    | some l => callListener perform kind event l t
    | none => (t, false)

def announce (s : Session) (perform : Performer) (kind : StoreKind) (event : ChangeEvent)
    (t : Topology Surroundings) : Topology Surroundings :=
  (Registry.announce (s.call perform kind event)
    (fun subscriber t =>
      { t with observers :=
          t.observers.logged (.listenerFailed subscriber.name event.kind event.ns) })
    (t.observers.subscribers kind) t).1

/-- What the subscribers do, given how steps of listeners are performed. -/
def observe (s : Session) (perform : Performer) : Observation Surroundings :=
  { onVertices := s.announce perform .vertices
    onEdges := s.announce perform .edges
    onWarning := fun warning o => o.logged (.warning warning) }

/-- What the subscribers do, with steps inside of steps down to a depth. -/
def watch (s : Session) : Nat → Observation Surroundings
  | 0 => s.observe fun _ t => (t, answerOf (.ok .nothing) t)
  | depth + 1 => s.observe fun step t => s.perform (s.watch depth) step t

/-- The greatest depth that steps inside of steps can have. -/
def depth (s : Session) : Nat :=
  s.listeners.foldr (fun l total => l.limit + total) 0

def run (s : Session) (steps : List Step) (t : Topology Surroundings) :
    Topology Surroundings × List Answer :=
  performAll (s.perform (s.watch s.depth)) steps t

end Session

end NetworkTopology
