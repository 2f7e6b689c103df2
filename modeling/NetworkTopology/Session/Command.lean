import NetworkTopology.Graph.Source
import NetworkTopology.Session.Query

/-!
# Commands

What can be done to a topology in a session: changes of the stores, the operations of the providers,
registration of listeners, requests to the REST interface, and the choice of the graph that is
loaded next.  A step is a command with its addressee, and it may be flawed: then its criteria or
other arguments could not be made.
-/

namespace NetworkTopology.Session

/-- A command. -/
inductive Command where
  | query (question : Query)
  | addVertices (vertices : List (Option Entity))
  | removeVertices (keys : List (Option Key))
  | clearVertices
  | addEdges (edges : List (Option Entity))
  | removeEdges (keys : List (Option Key))
  | clearEdges
  | connect (source target : Option Key)
  /-- Removes vertices with their edges. -/
  | removeWithEdges (keys : List (Option Key))
  | reset
  | refresh
  | clearCounters
  | nextVertexId
  | nextEdgeId
  /-- Registers a listener with a store. -/
  | listen (kind : StoreKind) (listener : String)
  /-- Removes a listener from a store. -/
  | unlisten (kind : StoreKind) (listener : String)
  | request (request : Rest.Request)
  /-- Chooses the graph to load from now on. -/
  | useGraph (number : Nat)
  deriving Repr

/-- Does the target take the command at all? -/
def Command.offeredBy (command : Command) (target : Target) : Except Fault Unit :=
  let require (offered : Bool) : Except Fault Unit :=
    if offered then .ok () else .error .notOffered
  match command with
  | query question => question.offeredBy target
  | addVertices _ | clearVertices => require (target.serves .vertices)
  | addEdges _ | removeEdges _ | clearEdges => require (target.serves .edges)
  | removeVertices _ => require (target == .store .vertices)
  | listen kind _ | unlisten kind _ => require (target.serves kind)
  | connect .. | removeWithEdges _ | reset | refresh | clearCounters | nextVertexId | nextEdgeId =>
    require target.isProvider
  | request _ | useGraph _ => .ok ()

/-- Is the command a question about membership, which is put to its target together with its
arguments?  Any other is first looked for at the target. -/
def Command.asksMembership : Command → Bool
  | query .length | query (.holds _) => true
  | _ => false

/-- A command, whom it is addressed to, and why its criteria and its other arguments could not be
made, if so. -/
structure Step where
  target : Target
  command : Command
  criteriaFlaw : Option Fault := none
  flaw : Option Fault := none
  deriving Repr

/-- What is flawed fails. -/
def sound : Option Fault → Except Fault Unit
  | some fault => .error fault
  | none => .ok ()

/-- Can the step be carried out?  It must be sound and offered.  Criteria are made before anything
else; whether the other arguments or the target are asked first depends on the command. -/
def Step.admitted (step : Step) : Except Fault Unit := do
  sound step.criteriaFlaw
  if step.command.asksMembership then
    sound step.flaw
    step.command.offeredBy step.target
  else
    step.command.offeredBy step.target
    sound step.flaw

/-- How providers refresh: not at all, or from the chosen one of several graphs, or, when there is
none to choose from, from an empty graph. -/
inductive Refreshment where
  | none
  | graphs (sources : List GraphSource)
  deriving Repr

end NetworkTopology.Session
