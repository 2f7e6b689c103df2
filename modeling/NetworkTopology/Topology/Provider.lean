import NetworkTopology.Graph.Adjacency
import NetworkTopology.Graph.Conversion
import NetworkTopology.Selection
import NetworkTopology.Topology.Basic

/-!
# Providers at work

The operations that keep both stores of a topology in step: connecting two vertices by an edge with
a generated id, removing a vertex with its edges, resetting everything, and rebuilding the content
from a graph.  A rebuild converts the whole graph before it touches the stores.
-/

namespace NetworkTopology

namespace Provider

/-- The namespace to serve: the one that is asked for, or else that of a given store, or else the
configured one.  Asking for the empty namespace asks for none. -/
def chooseNamespace (asked : Option String) (vertices : Option Store)
    (edges : Option Store) (configured : String) : String :=
  match asked.filter fun ns => !ns.isEmpty, vertices, edges with
  | some ns, _, _ => ns
  | none, some vertices, _ => vertices.ns
  | none, none, some edges => edges.ns
  | none, none, none => configured

/-- The stores of a provider: those given, and new ones in place of others.  Both must serve the
namespace of the provider. -/
def assemble {O : Type} (asked : Option String) (vertices : Option Store)
    (edges : Option Store) (configured : String) (observers : O) :
    Except Fault (Topology O) := do
  let ns := chooseNamespace asked vertices edges configured
  let vertices ← match vertices with
    | some vertices => pure vertices
    | none => Store.make .vertices ns
  let edges ← match edges with
    | some edges => pure edges
    | none => Store.make .edges ns
  if h : edges.ns = vertices.ns then
    if vertices.ns = ns then return { vertices, edges, edges_ns := h, observers }
    else throw (.namespaceRefused vertices.ns ns)
  else throw (.namespacesDiffer vertices.ns edges.ns)

end Provider

namespace Topology

variable {O : Type}

def nextVertexId (p : Nat) (t : Topology O) : Topology O × Except Fault String :=
  let provider := t.provider p
  let (generator, id) := provider.vertexIds.next (.ok t.vertices.ids)
    fun id => .ok (t.vertices.containsId id)
  (t.setProvider p { provider with vertexIds := generator }, id)

def nextEdgeId (p : Nat) (t : Topology O) : Topology O × Except Fault String :=
  let provider := t.provider p
  let (generator, id) := provider.edgeIds.next (.ok t.edges.ids)
    fun id => .ok (t.edges.containsId id)
  (t.setProvider p { provider with edgeIds := generator }, id)

/-- Lets both generators of a provider start afresh. -/
def clearCounters (p : Nat) (t : Topology O) : Topology O :=
  let provider := t.provider p
  t.setProvider p
    { provider with vertexIds := provider.vertexIds.reset, edgeIds := provider.edgeIds.reset }

/-- Connects two vertices by a new edge, which need not be stored themselves.  Without one of them
nothing happens. -/
def connect (watch : Observation O) (p : Nat) (source target : Option Key) (t : Topology O) :
    Topology O × Except Fault (Option Edge) :=
  match source, target with
  | none, none => (t.warn watch .noEnds, .ok none)
  | none, some _ => (t.warn watch .noSource, .ok none)
  | some _, none => (t.warn watch .noTarget, .ok none)
  | some source, some target =>
    match t.nextEdgeId p with
    | (t, .error fault) => (t, .error fault)
    | (t, .ok id) =>
      let edge := Edge.between { ns := t.ns, id } source target
      (t.addEdges watch [some (.edge edge)], .ok (some edge))

/-- Connects pairs of vertices in order, up to the first that cannot be connected. -/
def connectAll (watch : Observation O) (p : Nat) :
    List (Key × Key) → Topology O → Topology O × Except Fault Unit
  | [], t => (t, .ok ())
  | (source, target) :: pairs, t =>
    match t.connect watch p (some source) (some target) with
    | (t, .error fault) => (t, .error fault)
    | (t, .ok _) => connectAll watch p pairs t

/-- Removes a vertex and then every edge that is attached to it by now.  When something that is no
edge is among the edges, those attached cannot be told, and none is removed. -/
def removeWithEdges (watch : Observation O) (t : Topology O) :
    Option Key → Topology O × Except Fault Unit
  | none => (t.warn watch .noVertex, .ok ())
  | some vertex =>
    let t := t.removeVertices watch [some vertex]
    match t.edges.attached (some vertex) with
    | .ok edges => (t.removeEdges watch (edges.map fun e => some e.key), .ok ())
    | .error fault => (t, .error fault)

/-- Removes vertices, each with its edges, in order, up to the first whose edges cannot be told. -/
def removeAllWithEdges (watch : Observation O) :
    List (Option Key) → Topology O → Topology O × Except Fault Unit
  | [], t => (t, .ok ())
  | vertex :: vertices, t =>
    match t.removeWithEdges watch vertex with
    | (t, .error fault) => (t, .error fault)
    | (t, .ok ()) => removeAllWithEdges watch vertices t

/-- Removes all vertices and all edges and lets the generators of a provider start afresh. -/
def reset (watch : Observation O) (p : Nat) (t : Topology O) : Topology O :=
  ((t.clearVertices watch).clearEdges watch).clearCounters p

/-- What a graph holds for a namespace: its vertices, and the pairs to connect. -/
def convert (ns : String) (g : Graph) : Except Fault (List Vertex × List (Key × Key)) := do
  let vertices ← Graph.toVertices ns g.nodes
  return (vertices, g.toConnections ns)

/-- Rebuilds the content from a graph, if it was loaded and can be converted. -/
def refresh (watch : Observation O) (p : Nat) (loaded : Except Fault Graph) (t : Topology O) :
    Topology O × Except Fault Unit :=
  match loaded >>= convert t.ns with
  | .error fault => (t, .error fault)
  | .ok (vertices, pairs) =>
    ((t.reset watch p).addVertices watch (vertices.map fun v => some (.vertex v))).connectAll
      watch p pairs

/-- A selected entity as it is stored: anything but a vertex stands for what is stored among the
vertices under its key. -/
def resolve (t : Topology O) : Option Entity → Option Entity
  | some (.vertex v) => some (.vertex v)
  | some entity => some ((t.vertices.find? entity.key).getD entity)
  | none => none

/-- The selection for a content type that entities stand for. -/
def select (t : Topology O) (selected : List (Option Entity)) (contentType : Option ContentType) :
    Except Fault Selection :=
  Selection.make t.ns (selected.map t.resolve) contentType

/-- The topology as a graph, if all its entities are of the kind of their store. -/
def toGraph (t : Topology O) : Except Fault Graph := do
  let vertices ← Entity.toVertices t.vertices.entries
  let edges ← Entity.toEdges t.edges.entries
  return Graph.ofTopology t.ns vertices edges

/-- The adjacency matrix of whatever is stored as vertices, if all that is stored as edges are
edges. -/
def adjacency (t : Topology O) : Except Fault AdjacencyMatrix := do
  let edges ← Entity.toEdges t.edges.entries
  return AdjacencyMatrix.make t.vertices.ids edges

end Topology

end NetworkTopology
