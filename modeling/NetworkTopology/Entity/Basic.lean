import NetworkTopology.Json.Basic

/-!
# Entities of a topology

Vertices, edges and the connectors that attach an edge to a vertex.  Every entity has a key, the
pair of a namespace and an id, and is known by its key alone: a bare reference stands for the entity
of the same key.  An edge holds its two connectors, and a connector the key of its vertex; whether a
vertex of that key is stored anywhere is not the edge's concern.
-/

namespace NetworkTopology

/-- The identity of an entity. -/
structure Key where
  ns : String
  id : String
  deriving DecidableEq, Repr, Inhabited

/-- Ids in ascending order of code points. -/
def sortIds (ids : List String) : List String :=
  ids.mergeSort fun a b => !decide (b < a)

/-- What makes a vertex collapsible: the vertices it stands for, where a place may be left empty,
and whether it is collapsed right now. -/
structure Group where
  children : List (Option Key) := []
  collapsed : Json := .bool false
  deriving DecidableEq, Repr, Inhabited

/-- A vertex, possibly bound to a managed node.  What it shows is taken over from documents as it
stands there. -/
structure Vertex where
  key : Key
  label : Json := .null
  tooltip : Json := .null
  ipAddress : Json := .null
  nodeId : Json := .null
  group : Option Group := none
  deriving DecidableEq, Repr, Inhabited

/-- The attachment of an edge to a vertex. -/
structure Connector where
  key : Key
  vertex : Key
  deriving DecidableEq, Repr, Inhabited

/-- A link between two vertices, held through its connectors. -/
structure Edge where
  key : Key
  source : Connector
  target : Connector
  label : Json := .null
  tooltip : Json := .null
  deriving DecidableEq, Repr, Inhabited

/-- Any entity, or a bare reference to one. -/
inductive Entity where
  | ref (key : Key)
  | vertexRef (key : Key)
  | edgeRef (key : Key)
  | vertex (vertex : Vertex)
  | connector (connector : Connector)
  | edge (edge : Edge)
  deriving DecidableEq, Repr, Inhabited

namespace Vertex

/-- Does the vertex stand for others? -/
def isCollapsible (v : Vertex) : Bool :=
  v.group.isSome

/-- The keys of the vertices it stands for, empty places included. -/
def children (v : Vertex) : List (Option Key) :=
  (v.group.map Group.children).getD []

/-- The keys of the vertices it stands for; an empty place has none and cannot be listed. -/
def childKeys (v : Vertex) : Except Fault (List Key) :=
  v.children.mapM fun
    | some key => .ok key
    | none => .error (.missingAttribute "id")

end Vertex

namespace Connector

/-- A connector with a key of its own; it needs a vertex. -/
def make (key : Key) (vertex : Option Key) : Except Fault Connector :=
  match vertex with
  | some vertex => .ok { key, vertex }
  | none => .error (.detachedConnector key.id)

/-- The id of the connector by which an edge is attached to a vertex. -/
def idFor (vertexId edgeId : String) : String :=
  vertexId ++ "-" ++ edgeId ++ "-connector"

/-- The connector by which an edge is attached to a vertex; it lives in the vertex's namespace. -/
def forEdge (vertex : Key) (edgeId : String) : Connector :=
  { key := { ns := vertex.ns, id := idFor vertex.id edgeId }, vertex }

end Connector

namespace Edge

/-- An edge from its connectors; it needs both. -/
def make (key : Key) (source target : Option Connector) (label tooltip : Json) :
    Except Fault Edge :=
  match source, target with
  | some source, some target => .ok { key, source, target, label, tooltip }
  | _, _ => .error (.unattachedEdge key.id)

/-- The edge of a given key between two vertices. -/
def between (key : Key) (source target : Key) : Edge :=
  { key, source := .forEdge source key.id, target := .forEdge target key.id }

def sourceKey (e : Edge) : Key := e.source.vertex

def targetKey (e : Edge) : Key := e.target.vertex

/-- Is one of the ends attached to the vertex of this key? -/
def connects (e : Edge) (vertex : Key) : Bool :=
  e.sourceKey == vertex || e.targetKey == vertex

theorem connects_iff {e : Edge} {vertex : Key} :
    e.connects vertex = true ↔ e.sourceKey = vertex ∨ e.targetKey = vertex := by
  simp [connects]

end Edge

namespace Entity

def key : Entity → Key
  | ref key | vertexRef key | edgeRef key => key
  | vertex v => v.key
  | connector c => c.key
  | edge e => e.key

def typeName : Entity → String
  | ref _ => "Ref"
  | vertexRef _ => "VertexRef"
  | edgeRef _ => "EdgeRef"
  | vertex v => if v.isCollapsible then "CollapsibleVertex" else "Vertex"
  | connector _ => "Connector"
  | edge _ => "Edge"

/-- What the entity is, or refers to. -/
def kind : Entity → String
  | ref _ => "ref"
  | vertexRef _ | vertex _ => "vertex"
  | edgeRef _ | edge _ => "edge"
  | connector _ => "connector"

/-- Type and key, as log records show them. -/
def description (e : Entity) : String :=
  e.typeName ++ "(" ++ e.key.ns ++ ":" ++ e.key.id ++ ")"

/-- The label, for types that have one. -/
def label? : Entity → Option Json
  | vertex v => some v.label
  | edge e => some e.label
  | _ => none

/-- The bare reference to a vertex or an edge. -/
def asRef? : Entity → Option Entity
  | vertex v => some (vertexRef v.key)
  | edge e => some (edgeRef e.key)
  | _ => none

/-- Is it collapsible?  Only a vertex can say. -/
def isCollapsible? : Entity → Option Bool
  | vertex v => some v.isCollapsible
  | _ => none

/-- The vertex that an entity is.  Anything else, a bare reference to a vertex included, lacks what
vertices have. -/
def asVertex : Entity → Except Fault Vertex
  | vertex v => .ok v
  | _ => .error (.missingAttribute "is_collapsible")

/-- The edge that an entity is.  Anything else, a bare reference to an edge included, lacks what
edges have. -/
def asEdge : Entity → Except Fault Edge
  | edge e => .ok e
  | _ => .error (.missingAttribute "connects")

/-- The vertices that entities are, if all of them are vertices. -/
def toVertices : List Entity → Except Fault (List Vertex)
  | [] => .ok []
  | entity :: entities => do
    let v ← entity.asVertex
    let vs ← toVertices entities
    return v :: vs

/-- The edges that entities are, if all of them are edges. -/
def toEdges : List Entity → Except Fault (List Edge)
  | [] => .ok []
  | entity :: entities => do
    let e ← entity.asEdge
    let es ← toEdges entities
    return e :: es

theorem toVertices_map_vertex (vs : List Vertex) : toVertices (vs.map vertex) = .ok vs := by
  induction vs with
  | nil => rfl
  | cons v vs ih => simp [toVertices, asVertex, ih, bind, Except.bind, pure, Except.pure]

theorem toEdges_map_edge (es : List Edge) : toEdges (es.map edge) = .ok es := by
  induction es with
  | nil => rfl
  | cons e es ih => simp [toEdges, asEdge, ih, bind, Except.bind, pure, Except.pure]

end Entity

end NetworkTopology
