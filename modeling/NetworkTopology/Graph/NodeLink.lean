import NetworkTopology.Graph.Basic
import NetworkTopology.Json.Reader

/-!
# Node-link documents

A node-link document lists the nodes of a graph and then its links, each an object.  A node is named
by its `id`, or by its place in the list; a link names its two ends, and in a multigraph it may have
a `key`.  All other fields are data.  A document is a multigraph unless it says otherwise, and
undirected unless it says otherwise.
-/

namespace NetworkTopology.Graph

/-- Names that are kept for the graph itself and cannot be data of a node. -/
def reservedForNodes : List String := ["self", "node_for_adding"]

/-- Names that cannot be data of an edge. -/
def reservedForEdges (multigraph : Bool) : List String :=
  if multigraph then ["self", "u_for_edge", "v_for_edge"] else ["self", "u_of_edge", "v_of_edge"]

/-- Data must not use a reserved name. -/
def checkReserved (reserved : List String) (fields : Fields) : Except Fault Unit :=
  match fields.find? fun field => reserved.contains field.1 with
  | some field => .error (.reservedField field.1)
  | none => .ok ()

/-- A field that must be there. -/
def requiredField (fields : Fields) (name : String) : Except Fault Json :=
  match Fields.get? fields name with
  | some value => .ok value
  | none => .error (.missingField name)

/-- A node must have a name. -/
def named (id : NodeId) : Except Fault NodeId :=
  if id = .null then .error .nullNode else .ok id

/-- Adds the node of an entry at a place of the list. -/
def addNodeEntry (g : Graph) (place : Nat) (entry : Json) : Except Fault Graph := do
  let some fields := entry.fields? | throw .notAnObject
  let data := Fields.without fields ["id"]
  checkReserved reservedForNodes data
  let id ← named (← NodeId.ofDocument ((Fields.get? fields "id").getD (.int place)))
  return g.addNode id data

/-- Adds the nodes of entries from a place of the list on. -/
def addNodeEntries (g : Graph) (place : Nat) : List Json → Except Fault Graph
  | [] => .ok g
  | entry :: entries => do addNodeEntries (← g.addNodeEntry place entry) (place + 1) entries

def addLinkEntry (g : Graph) (entry : Json) : Except Fault Graph := do
  let some fields := entry.fields? | throw .entryNotAnObject
  let source ← requiredField fields "source"
  let target ← requiredField fields "target"
  let data := Fields.without fields
    (if g.multigraph then ["source", "target", "key"] else ["source", "target"])
  checkReserved (reservedForEdges g.multigraph) data
  let source ← named (← NodeId.ofEndpoint source)
  let target ← named (← NodeId.ofEndpoint target)
  let key ← NodeId.ofScalar
    (if g.multigraph then (Fields.get? fields "key").getD .null else .null)
  return g.addEdge source target (if key = .null then none else some key) data

def addLinkEntries (g : Graph) : List Json → Except Fault Graph
  | [] => .ok g
  | entry :: entries => do addLinkEntries (← g.addLinkEntry entry) entries

def ofDocument (document : Json) : Except Fault Graph := do
  let some fields := document.fields? | throw .notAnObject
  let empty : Graph := {
    directed := ((Fields.get? fields "directed").getD (.bool false)).isTruthy
    multigraph := ((Fields.get? fields "multigraph").getD (.bool true)).isTruthy
    attributes := (Fields.get? fields "graph").getD (.obj []) }
  let g ← empty.addNodeEntries 0 (← (← requiredField fields "nodes").sequence)
  g.addLinkEntries (← (← requiredField fields "links").sequence)

/-- Reads a graph from a file with a node-link document. -/
def read (characters : String) : Except Fault Graph := do
  ofDocument (← Json.readCharacters characters)

end NetworkTopology.Graph
