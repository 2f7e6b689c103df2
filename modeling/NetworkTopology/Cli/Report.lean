import NetworkTopology.Graph.Adjacency
import NetworkTopology.Topology.Provider

/-!
# Reports

The lines that the commands print about a topology.
-/

namespace NetworkTopology.Cli

variable {O : Type}

def countLine (what : String) (count : Nat) : String :=
  "  " ++ what ++ ": " ++ Decimal.text count

def infoLines (t : Topology O) : Except Fault (List String) := do
  let vertices ← Entity.toVertices t.vertices.entries
  let collapsible := vertices.countP Vertex.isCollapsible
  let sizes := ["Namespace: " ++ t.ns, countLine "Vertices" t.vertices.size,
    countLine "Edges" t.edges.size,
    countLine "Vertices bound to nodes" (vertices.countP fun v => v.nodeId != .null)]
  return sizes ++ if collapsible = 0 then [] else [countLine "Collapsible vertices" collapsible]

/-- The other end of an edge that is attached to a vertex. -/
def peer (vertex : Key) (e : Edge) : Key :=
  if e.sourceKey = vertex then e.targetKey else e.sourceKey

/-- The lines about the edges of a vertex. -/
def vertexLines (vertex : Key) (edges : List Edge) : List String :=
  let sorted := edges.mergeSort fun x y => !decide (y.key.id < x.key.id)
  (vertex.id ++ ":") :: sorted.map fun e => "  " ++ e.key.id ++ " -> " ++ (peer vertex e).id

/-- The keys of vertices of a topology's namespace. -/
def keysOf (t : Topology O) (ids : List String) : List Key :=
  ids.map fun id => { ns := t.ns, id }

/-- The ids among some that are no vertices. -/
def unknownIds (t : Topology O) (ids : List String) : List String :=
  ((keysOf t ids).filter fun key => !t.vertices.contains key).map Key.id

/-- The line about ids that are no vertices. -/
def unknownLine (ids : List String) : String :=
  "Unknown vertices: " ++ String.intercalate ", " ids

/-- The lines about the edges of vertices. -/
def edgesLines (t : Topology O) (ids : List String) : Except Fault (List String) := do
  let attached ← t.edges.attachedToEach ((keysOf t ids).map some)
  return attached.flatMap fun entry => vertexLines entry.1 entry.2

def selectionLines (selection : Selection) : Except Fault (List String) := do
  let title := "Selection: " ++ selection.typeName
  match ← selection.listing with
  | none => return [title]
  | some ids =>
    if NodeId.areWritable ids then
      return [title, "  Node ids: [" ++ String.intercalate ", " (ids.map NodeId.shown) ++ "]"]
    else throw .integerTooLong

/-- A text with blanks behind it up to a width. -/
def padRight (width : Nat) (text : String) : String :=
  text ++ String.ofList (List.replicate (width - Text.size text) ' ')

def matrixLines (m : AdjacencyMatrix) : List String :=
  let width := ((m.ids.map Text.size).max?).getD 1
  let line (head : String) (cells : List String) : String :=
    padRight width head ++ " " ++ String.intercalate " " cells
  line "" m.ids ::
    (m.ids.zip m.rows).map fun row => line row.1 (row.2.map fun (n : Nat) => Decimal.text n)

/-- The line about the address that a topology is served on. -/
def servingLine (ns host : String) (portNumber : Int) : String :=
  "Serving " ++ ns ++ " on " ++ host ++ ":" ++ Decimal.text portNumber

end NetworkTopology.Cli
