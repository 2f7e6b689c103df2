import NetworkTopology.Entity.Basic
import NetworkTopology.Graph.Basic

/-!
# From graphs to topologies and back

Each node of a graph becomes a vertex with the node's text as its id, and each edge a pair of vertex
keys to connect.  The other way round, vertices and edges become a multigraph whose nodes are vertex
ids and whose edge keys are edge ids; an edge whose ends are not among the vertices brings them in
as nodes without data.
-/

namespace NetworkTopology

namespace Vertex

/-- The node id of a vertex: a node without one has none, and any other must be an integer. -/
def readNodeId : Json → Except Fault Json
  | .null => .ok .null
  | value => do return .int (← value.toInteger)

/-- The vertex of a graph node.  It shows a label, a tooltip or else a description, and an address
or else a management address. -/
def ofNode (ns : String) (id : NodeId) (data : Fields) : Except Fault Vertex := do
  let field (name : String) : Json := (Fields.get? data name).getD .null
  let text ← id.write
  let nodeId ← readNodeId (field "node_id")
  return {
    key := { ns, id := text }
    label := (Fields.get? data "label").getD (.str text)
    tooltip := (field "tooltip").orElse (field "description")
    ipAddress := (field "ip_address").orElse (field "mgmt_address")
    nodeId }

end Vertex

namespace Graph

/-- The vertices of the nodes, in order, if all can be converted. -/
def toVertices (ns : String) : List (NodeId × Fields) → Except Fault (List Vertex)
  | [] => .ok []
  | (id, data) :: nodes => do
    let v ← Vertex.ofNode ns id data
    let vs ← toVertices ns nodes
    return v :: vs

/-- The keys of the vertices that each edge joins. -/
def toConnections (g : Graph) (ns : String) : List (Key × Key) :=
  g.edges.map fun edge =>
    ({ ns, id := (g.spelling edge.source).text }, { ns, id := (g.spelling edge.target).text })

def vertexFields (v : Vertex) : Fields :=
  [("label", v.label), ("tooltip", v.tooltip), ("ip_address", v.ipAddress),
    ("node_id", v.nodeId), ("collapsible", .bool v.isCollapsible)]

def edgeFields (e : Edge) : Fields :=
  [("label", e.label), ("source_connector", .str e.source.key.id),
    ("target_connector", .str e.target.key.id)]

/-- The multigraph of vertices and edges of a namespace. -/
def ofTopology (ns : String) (vertices : List Vertex) (edges : List Edge) : Graph :=
  let bare : Graph := { multigraph := true, attributes := .obj [("namespace", .str ns)] }
  let noded := vertices.foldl (fun g v => g.addNode (.str v.key.id) (vertexFields v)) bare
  edges.foldl
    (fun g e => g.addEdge (.str e.sourceKey.id) (.str e.targetKey.id) (some (.str e.key.id))
      (edgeFields e))
    noded

end Graph

end NetworkTopology
