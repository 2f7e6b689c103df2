import NetworkTopology.Graph.Adjacency
import NetworkTopology.Rest.Api

/-!
# Queries

The questions that can be asked of a topology.  A question is addressed to a provider or to one of
the stores, and each of these answers only what is its own: a provider speaks for both stores,
except that bare membership is a matter of the stores.  A store that is not there answers nothing.
Asking changes nothing.
-/

namespace NetworkTopology.Session

/-- Whom a question or a command is addressed to. -/
inductive Target where
  | provider (number : Nat)
  | store (kind : StoreKind)
  /-- A store that is not there. -/
  | absent
  deriving DecidableEq, Repr

namespace Target

/-- The number of the provider; a store is spoken for by the first one. -/
def number : Target → Nat
  | provider number => number
  | store _ | absent => 0

def isProvider : Target → Bool
  | provider _ => true
  | store _ | absent => false

/-- Is it a store that is there? -/
def isStore : Target → Bool
  | store _ => true
  | provider _ | absent => false

/-- Does it speak for the store of a kind? -/
def serves : Target → StoreKind → Bool
  | provider _, _ => true
  | store kind, other => kind == other
  | absent, _ => false

end Target

/-- A question. -/
inductive Query where
  /-- The namespace. -/
  | namespaceName
  /-- What the provider says about itself. -/
  | info
  /-- The number of entities in a store. -/
  | count (kind : StoreKind)
  /-- The number of entities in the store that is asked. -/
  | length
  /-- Is an entity of this key in the store that is asked? -/
  | holds (key : Option Key)
  /-- Is an entity of this id in the store that is asked? -/
  | holdsId (id : String)
  /-- Is there a vertex of this key that meets the criteria? -/
  | hasVertex (key : Option Key) (criteria : List Criterion)
  /-- Is there an edge of this key? -/
  | hasEdge (key : Option Key)
  /-- The vertex of a key, if it meets the criteria. -/
  | vertex (key : Option Key) (criteria : List Criterion)
  /-- The edge of a key, if it meets the criteria. -/
  | edge (key : Option Key) (criteria : List Criterion)
  /-- The vertices that meet the criteria. -/
  | vertices (criteria : List Criterion)
  /-- Those of them that are not collapsible. -/
  | plainVertices (criteria : List Criterion)
  /-- The edges that meet the criteria. -/
  | edges (criteria : List Criterion)
  /-- The vertices of the given keys that meet the criteria. -/
  | verticesOf (keys : List (Option Key)) (criteria : List Criterion)
  /-- The edges of the given keys that meet the criteria. -/
  | edgesOf (keys : List (Option Key)) (criteria : List Criterion)
  /-- The stored members of a collapsible vertex that meet the criteria. -/
  | children (key : Option Key) (criteria : List Criterion)
  /-- The edges attached to a vertex. -/
  | attached (key : Option Key)
  /-- The edges attached to each of several vertices. -/
  | attachedToEach (vertices : List (Option Entity))
  /-- Does the vertex store add to what another namespace shows? -/
  | contributes (ns : String)
  /-- The zoom level at which a vertex shows. -/
  | zoomLevel (key : Option Key)
  /-- The selection that entities stand for. -/
  | selection (selected : List (Option Entity)) (contentType : Option ContentType)
  /-- The graph of the topology. -/
  | graph
  /-- Its adjacency matrix. -/
  | adjacency
  deriving Repr

/-- What a question or a command is answered with. -/
inductive Outcome where
  | nothing
  | flag (value : Bool)
  | number (value : Nat)
  | text (value : String)
  | info (value : ProviderInfo)
  | entity (value : Option Entity)
  | entities (values : List Entity)
  | summaries (values : List Entity)
  | attachments (values : List (Entity × List Key))
  | selection (value : Selection) (ids : Option (List NodeId))
  | graph (value : Graph)
  | matrix (value : AdjacencyMatrix)
  | response (value : Rest.Response)
  deriving Repr

/-- The order of keys by namespace and then by id. -/
def keyLe (x y : Key) : Bool :=
  if x.ns = y.ns then !decide (y.id < x.id) else decide (x.ns < y.ns)

/-- The entity under which a key is named first. -/
def namedFirst (vertices : List (Option Entity)) (key : Key) : Entity :=
  ((vertices.filterMap id).find? fun entity => entity.key == key).getD (.vertexRef key)

namespace Query

/-- Does the target answer the question at all? -/
def offeredBy (query : Query) (target : Target) : Except Fault Unit :=
  let require (offered : Bool) : Except Fault Unit :=
    if offered then .ok () else .error .notOffered
  match query with
  | namespaceName => require (target != .absent)
  | info | selection .. | graph | adjacency => require target.isProvider
  | count kind => require (target.serves kind)
  | length | holds _ => if target.isStore then .ok () else .error .notACollection
  | holdsId _ => require target.isStore
  | hasEdge _ => require (target == .store .edges)
  | hasVertex .. | vertex .. | vertices _ | plainVertices _ | verticesOf .. | children ..
  | contributes _ | zoomLevel _ => require (target.serves .vertices)
  | edge .. | edges _ | edgesOf .. | attached _ | attachedToEach _ => require (target.serves .edges)

def size {O : Type} (kind : StoreKind) (t : Topology O) : Nat :=
  match kind with
  | .vertices => t.vertices.size
  | .edges => t.edges.size

/-- Is an entity of this key in the store that is asked? -/
def contains {O : Type} (target : Target) (key : Key) (t : Topology O) : Bool :=
  match target with
  | .store .edges => t.edges.contains key
  | _ => t.vertices.contains key

/-- Answers a question that the target answers. -/
def evaluate {O : Type} (target : Target) (t : Topology O) : Query → Except Fault Outcome
  | namespaceName => .ok (.text t.ns)
  | info => .ok (.info (t.provider target.number).info)
  | count kind => .ok (.number (size kind t))
  | length => .ok (.number (size (if target = .store .edges then .edges else .vertices) t))
  | holds key => .ok (.flag (key.any fun key => contains target key t))
  | holdsId id => .ok (.flag (contains target { ns := t.ns, id } t))
  | hasVertex key criteria => do return .flag (← t.vertices.has (.of criteria) key)
  | hasEdge key => .ok (.flag (key.any t.edges.contains))
  | vertex key criteria => do return .entity (← t.vertices.get? (.of criteria) key)
  | edge key criteria => do return .entity (← t.edges.get? (.of criteria) key)
  | vertices criteria => do return .entities (← t.vertices.list (.of criteria))
  | plainVertices criteria => do
    return .entities ((← t.vertices.plain (.of criteria)).map .vertex)
  | edges criteria => do return .entities (← t.edges.list (.of criteria))
  | verticesOf keys criteria => do return .entities (← t.vertices.listOf (.of criteria) keys)
  | edgesOf keys criteria => do return .entities (← t.edges.listOf (.of criteria) keys)
  | children key criteria => do
    let members ← t.vertices.childrenOf (.of criteria) key
    return .entities (members.mergeSort fun x y => keyLe x.key y.key)
  | attached key => do return .summaries ((← t.edges.attached key).map .edge)
  | attachedToEach given => do
    let keys := given.map fun entity => entity.map Entity.key
    return .attachments ((← t.edges.attachedToEach keys).map fun entry =>
      (namedFirst given entry.1, (entry.2.map Edge.key).mergeSort keyLe))
  | contributes _ => .ok (.flag false)
  | zoomLevel _ => .ok (.number 0)
  | selection selected contentType => do
    let chosen ← t.select selected contentType
    return .selection chosen (← chosen.listing)
  | graph => do return .graph (← t.toGraph)
  | adjacency => do return .matrix (← t.adjacency)

def ask {O : Type} (query : Query) (target : Target) (t : Topology O) : Except Fault Outcome := do
  query.offeredBy target
  query.evaluate target t

end Query

end NetworkTopology.Session
