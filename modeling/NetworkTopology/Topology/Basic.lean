import NetworkTopology.IdGenerator
import NetworkTopology.Log
import NetworkTopology.Store

/-!
# Topologies and their observers

A topology is a vertex store and an edge store of one namespace, with the providers that work on
them; each provider has id generators of its own.  Whoever watches a topology has a state, too, and
every mutation of a store is told to the observers, who may do anything to the topology before the
mutation returns: `Observation` is what they do.  The operations of this folder take it as a
parameter, so that what is said of them holds for observers that call back as deep as they like.
-/

namespace NetworkTopology

/-- What a provider says about itself, as it was told to. -/
structure ProviderInfo where
  name : Json := .str "Undefined"
  description : Json := .str "No description available"
  hierarchical : Json := .bool false
  deriving DecidableEq, Repr, Inhabited

/-- A provider: its id generators, and what it says about itself. -/
structure Provider where
  vertexIds : IdGenerator
  edgeIds : IdGenerator
  info : ProviderInfo := {}
  deriving DecidableEq, Repr, Inhabited

/-- Two stores of one namespace, the providers over them and the state of the observers. -/
structure Topology (O : Type) where
  vertices : Store
  edges : Store
  edges_ns : edges.ns = vertices.ns
  providers : List Provider := []
  observers : O

/-- What observers do when a store has changed, and when an operation passes something over. -/
structure Observation (O : Type) where
  onVertices : ChangeEvent → Topology O → Topology O
  onEdges : ChangeEvent → Topology O → Topology O
  onWarning : Warning → O → O

/-- Observers that do nothing. -/
def Observation.silent (O : Type) : Observation O :=
  { onVertices := fun _ t => t, onEdges := fun _ t => t, onWarning := fun _ o => o }

namespace Topology

variable {O : Type}

/-- The namespace of both stores. -/
def ns (t : Topology O) : String := t.vertices.ns

def provider (t : Topology O) (p : Nat) : Provider :=
  (t.providers[p]?).getD default

/-- Changes the provider of a number. -/
def setProvider (t : Topology O) (p : Nat) (provider : Provider) : Topology O :=
  { t with providers := t.providers.set p provider }

/-- Lets the observers know what was passed over. -/
def warn (watch : Observation O) (warning : Warning) (t : Topology O) : Topology O :=
  { t with observers := watch.onWarning warning t.observers }

/-- Tells the observers of a change of the vertices, if there was one. -/
def tellVertices (watch : Observation O) (event : Option ChangeEvent)
    (t : Topology O) : Topology O :=
  match event with
  | some event => watch.onVertices event t
  | none => t

/-- Tells the observers of a change of the edges, if there was one. -/
def tellEdges (watch : Observation O) (event : Option ChangeEvent)
    (t : Topology O) : Topology O :=
  match event with
  | some event => watch.onEdges event t
  | none => t

/-- Adds entities to the vertices, replacing those of the same key; those of another namespace are
passed over. -/
def addVertices (watch : Observation O) (vertices : List (Option Entity)) (t : Topology O) :
    Topology O :=
  let intake := t.vertices.add vertices
  let stored := { t with
    vertices := intake.store, edges_ns := t.edges_ns.trans (t.vertices.add_ns vertices).symm }
  let warned := intake.refused.foldl
    (fun t entity => t.warn watch (.foreign .vertices entity t.ns)) stored
  warned.tellVertices watch intake.event?

def removeVertices (watch : Observation O) (keys : List (Option Key)) (t : Topology O) :
    Topology O :=
  let removal := t.vertices.remove keys
  let stored := { t with
    vertices := removal.store, edges_ns := t.edges_ns.trans (t.vertices.remove_ns keys).symm }
  stored.tellVertices watch removal.event?

def clearVertices (watch : Observation O) (t : Topology O) : Topology O :=
  let cleared := { t with vertices := t.vertices.clear, edges_ns := t.edges_ns }
  cleared.tellVertices watch (some t.vertices.clearEvent)

/-- Adds entities to the edges, replacing those of the same key; those of another namespace are
passed over. -/
def addEdges (watch : Observation O) (edges : List (Option Entity)) (t : Topology O) :
    Topology O :=
  let intake := t.edges.add edges
  let stored := { t with
    edges := intake.store, edges_ns := (t.edges.add_ns edges).trans t.edges_ns }
  let warned := intake.refused.foldl
    (fun t entity => t.warn watch (.foreign .edges entity t.ns)) stored
  warned.tellEdges watch intake.event?

def removeEdges (watch : Observation O) (keys : List (Option Key)) (t : Topology O) :
    Topology O :=
  let removal := t.edges.remove keys
  let stored := { t with
    edges := removal.store, edges_ns := (t.edges.remove_ns keys).trans t.edges_ns }
  stored.tellEdges watch removal.event?

def clearEdges (watch : Observation O) (t : Topology O) : Topology O :=
  let cleared := { t with edges := t.edges.clear, edges_ns := t.edges_ns }
  cleared.tellEdges watch (some t.edges.clearEvent)

end Topology

end NetworkTopology
