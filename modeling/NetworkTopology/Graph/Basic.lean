import NetworkTopology.NodeId

/-!
# Graphs

A graph as documents describe it: nodes in the order of their first mention, and links in the order
in which their pair of ends is first joined.  In a multigraph a link holds several edges, told apart
by keys; in a simple graph it holds one.  Ends, like nodes, are known by identity and keep the
spelling under which they came first.
-/

namespace NetworkTopology

/-- All edges between one pair of nodes, by key. -/
structure Link where
  source : NodeId
  target : NodeId
  parallel : List (NodeId × Fields)
  deriving DecidableEq, Repr

/-- A graph, directed or not, with parallel edges or without. -/
structure Graph where
  directed : Bool := false
  multigraph : Bool := false
  attributes : Json := .obj []
  nodes : List (NodeId × Fields) := []
  links : List Link := []
  deriving DecidableEq, Repr, Inhabited

/-- One edge of a graph, as enumeration shows it; only a multigraph's edges have keys. -/
structure GraphEdge where
  source : NodeId
  target : NodeId
  key : Option NodeId
  data : Fields
  deriving DecidableEq, Repr

namespace Graph

/-- Is a node of this name in the graph? -/
def hasNode (g : Graph) (id : NodeId) : Bool :=
  g.nodes.any fun node => decide (node.1.Same id)

/-- Adds a node, or sets more fields of the node that is there. -/
def addNode (g : Graph) (id : NodeId) (fields : Fields) : Graph :=
  if g.hasNode id then
    { g with
      nodes := g.nodes.map fun node =>
        if node.1.Same id then (node.1, Fields.merge node.2 fields) else node }
  else { g with nodes := g.nodes ++ [(id, fields)] }

/-- The spelling under which a node came first. -/
def spelling (g : Graph) (id : NodeId) : NodeId :=
  match g.nodes.find? fun node => decide (node.1.Same id) with
  | some node => node.1
  | none => id

/-- Does a link join these ends?  Without direction it does so either way round. -/
def joins (directed : Bool) (link : Link) (source target : NodeId) : Bool :=
  decide (link.source.Same source) && decide (link.target.Same target)
    || !directed && decide (link.source.Same target) && decide (link.target.Same source)

/-- The key of a new parallel edge: the least integer, from the number of edges on, that is no key
yet.  There is one among the next `keys.length + 1` integers. -/
def newKey (keys : List NodeId) : NodeId :=
  let candidates := (List.range (keys.length + 1)).map fun (i : Nat) =>
    NodeId.int ((keys.length + i : Nat) : Int)
  (candidates.find? fun candidate => !keys.any fun key => decide (key.Same candidate)).getD
    (.int keys.length)

/-- Adds an edge to parallel ones, or sets more fields of the edge of the same key. -/
def addParallel (parallel : List (NodeId × Fields)) (key : NodeId) (data : Fields) :
    List (NodeId × Fields) :=
  if parallel.any fun edge => decide (edge.1.Same key) then
    parallel.map fun edge =>
      if edge.1.Same key then (edge.1, Fields.merge edge.2 data) else edge
  else parallel ++ [(key, data)]

/-- Puts an edge into the first link that joins its ends, or into a new one. -/
def addToLinks (directed multigraph : Bool) (source target : NodeId) (key : Option NodeId)
    (data : Fields) : List Link → List Link
  | [] =>
    let key := if multigraph then key.getD (.int 0) else .int 0
    [{ source, target, parallel := [(key, data)] }]
  | link :: links =>
    if joins directed link source target then
      let key := if multigraph then key.getD (newKey (link.parallel.map (·.1))) else .int 0
      { link with parallel := addParallel link.parallel key data } :: links
    else link :: addToLinks directed multigraph source target key data links

/-- Adds an edge, and the nodes at its ends where they are missing. -/
def addEdge (g : Graph) (source target : NodeId) (key : Option NodeId) (data : Fields) : Graph :=
  let g := (g.addNode source []).addNode target []
  { g with links := addToLinks g.directed g.multigraph source target key data g.links }

/-- The nodes that a node is linked to, each with the edges between the two. -/
def neighbours (g : Graph) (id : NodeId) : List (NodeId × List (NodeId × Fields)) :=
  g.links.filterMap fun link =>
    if link.source.Same id then some (link.target, link.parallel)
    else if !g.directed && decide (link.target.Same id) then some (link.source, link.parallel)
    else none

/-- The edges of some of the nodes, in order.  Without direction an edge shows at the end that is
met first: not where the other end is among the nodes `seen` before. -/
def edgesOf (g : Graph) (seen : List NodeId) : List (NodeId × Fields) → List GraphEdge
  | [] => []
  | (id, _) :: nodes =>
    let fresh := (g.neighbours id).filter fun neighbour =>
      g.directed || !seen.any fun other => decide (other.Same neighbour.1)
    (fresh.flatMap fun neighbour =>
        neighbour.2.map fun edge =>
          { source := id, target := neighbour.1
            key := if g.multigraph then some edge.1 else none, data := edge.2 })
      ++ edgesOf g (id :: seen) nodes

/-- The edges: those of each node in the order of its links, parallel ones in the order of their
keys' first use. -/
def edges (g : Graph) : List GraphEdge :=
  g.edgesOf [] g.nodes

end Graph

end NetworkTopology
