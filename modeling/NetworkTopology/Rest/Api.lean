import NetworkTopology.Rest.Route
import NetworkTopology.Topology.Provider

/-!
# The REST interface

Requests against one provider: its health, the listings and single entities, removal of a vertex
with its edges, connecting two vertices, selections, and rebuilding or clearing the content.  A
request that cannot be served says so in its status, and an operation that fails answers 500.
-/

namespace NetworkTopology.Rest

/-- An answer. -/
inductive Response where
  /-- A document. -/
  | document (status : Nat) (body : Json)
  /-- A refusal with a text that explains it. -/
  | refusal (status : Nat) (message : String)
  /-- A status alone. -/
  | bare (status : Nat)
  deriving Repr

/-- The interface to a provider: who watches the topology, how the provider refreshes, and how to
see from the observers' state whether anything has changed so far. -/
structure Api (O : Type) where
  watch : Observation O
  provider : Nat
  refresh : Topology O → Topology O × Except Fault Unit
  updated : O → Bool

/-- The explanation of a path that leads nowhere. -/
def nowhereText : String :=
  "The requested URL was not found on the server. If you entered the URL manually please check "
    ++ "your spelling and try again."

/-- Explanations are shown as a paragraph, where a line ends with a break mark. -/
def paragraph (message : String) : String :=
  String.ofList (message.toList.flatMap fun c => if c = '\n' then "<br>".toList else [c])

/-- The answer for a vertex or an edge that is not stored. -/
def missing (what id : String) : Response :=
  .refusal 404 (paragraph (what ++ " " ++ id ++ " not found"))

/-- The explanation of a request that is not properly addressed. -/
def misaddressedText : String :=
  "The browser (or proxy) sent a request that this server could not understand."

/-- A document as an answer holds it.  What is stored may be an integer that has too many digits;
the length of a listing never has. -/
def written (document : Json) : Except Fault Json :=
  if document.isWritable then .ok document else .error .integerTooLong

def vertexDocument (v : Vertex) : Except Fault Json := do
  let fields : Fields :=
    [("id", .str v.key.id), ("namespace", .str v.key.ns), ("label", v.label),
      ("tooltip", v.tooltip), ("ip_address", v.ipAddress), ("node_id", v.nodeId),
      ("collapsible", .bool v.isCollapsible)]
  if v.isCollapsible then
    let children := sortIds ((← v.childKeys).map Key.id)
    written (.obj (fields ++ [("children", .arr (children.map .str))]))
  else written (.obj fields)

def connectorDocument (c : Connector) : Json :=
  .obj [("id", .str c.key.id), ("vertex", .str c.vertex.id)]

def edgeDocument (e : Edge) : Json :=
  .obj [("id", .str e.key.id), ("namespace", .str e.key.ns), ("label", e.label),
    ("source", connectorDocument e.source), ("target", connectorDocument e.target)]

def listDocument (name : String) (items : List Json) : Json :=
  .obj [(name, .arr items), ("count", .int items.length)]

/-- The stored vertex that a document names by its id.  Only strings are ids; other scalars name
nothing, and lists and objects cannot be looked up at all. -/
def lookUp {O : Type} (t : Topology O) : Json → Except Fault (Option Key)
  | .str id =>
    let key : Key := { ns := t.ns, id }
    .ok (if t.vertices.contains key then some key else none)
  | .arr _ | .obj _ => .error .notAName
  | .null | .bool _ | .int _ | .float _ => .ok none

/-- A field of the document that was sent. -/
def bodyField (body : Json) (name : String) (absent : Json) : Except Fault Json :=
  match body with
  | .obj fields => .ok ((Fields.get? fields name).getD absent)
  | _ => .error .notAnObject

namespace Api

variable {O : Type} (api : Api O)

/-- The ends that a request asks to connect. -/
def ends (body : Json) (t : Topology O) : Except Fault (Option Key × Option Key) := do
  let source ← lookUp t (← bodyField body "source" (.str ""))
  let target ← lookUp t (← bodyField body "target" (.str ""))
  return (source, target)

/-- Connects two vertices. -/
def connect (body : Json) (t : Topology O) : Topology O × Response :=
  match ends body t with
  | .error _ => (t, .bare 500)
  | .ok (source, target) =>
    match t.connect api.watch api.provider source target with
    | (t, .ok (some edge)) => (t, .document 201 (edgeDocument edge))
    | (t, .ok none) => (t, .refusal 400 "Both source and target must be existing vertex ids")
    | (t, .error _) => (t, .bare 500)

/-- What a request asks to select. -/
def selected (body : Json) (t : Topology O) : Except Fault (List (Option Entity)) := do
  let items ← (← bodyField body "vertices" (.arr [])).sequence
  let keys ← items.mapM (lookUp t)
  return keys.map fun key => key.map Entity.vertexRef

def selectionDocument (contentType : Option ContentType) (selection : Selection) :
    Except Fault Json := do
  let ids ← NodeId.sorted (selection.ids?.getD [])
  written (.obj [("type", .str selection.typeName),
    ("content_type", (contentType.map fun c => Json.str c.value).getD .null),
    ("ids", .arr (ids.map NodeId.toJson))])

/-- Maps vertices to a selection. -/
def selection (body : Json) (t : Topology O) : Except Fault Json := do
  let contentType := ContentType.ofDocument (← bodyField body "content_type" .null)
  let selection ← t.select (← selected body t) contentType
  selectionDocument contentType selection

/-- The state of the provider at a glance. -/
def health (t : Topology O) : Json :=
  .obj [("status", .str "ok"), ("namespace", .str t.ns),
    ("provider", (t.provider api.provider).info.name),
    ("vertices", .int t.vertices.size), ("edges", .int t.edges.size),
    ("last_update", .bool (api.updated t.observers))]

def vertexDocuments (t : Topology O) : Except Fault (List Json) := do
  (← Entity.toVertices t.vertices.entries).mapM vertexDocument

def edgeDocuments (t : Topology O) : Except Fault (List Json) := do
  (← Entity.toEdges t.edges.entries).mapM fun e => written (edgeDocument e)

/-- Answers what reads a resource. -/
def get (resource : Resource) (t : Topology O) : Except Fault Response :=
  match resource with
  | .health => .ok (.document 200 (api.health t))
  | .vertices => do return .document 200 (listDocument "vertices" (← vertexDocuments t))
  | .edges => do return .document 200 (listDocument "edges" (← edgeDocuments t))
  | .vertex id =>
    match t.vertices.find? { ns := t.ns, id } with
    | some entity => do return .document 200 (← vertexDocument (← entity.asVertex))
    | none => .ok (missing "Vertex" id)
  | .edge id =>
    match t.edges.find? { ns := t.ns, id } with
    | some entity => do return .document 200 (← written (edgeDocument (← entity.asEdge)))
    | none => .ok (missing "Edge" id)
  | .vertexEdges id =>
    let key : Key := { ns := t.ns, id }
    if t.vertices.contains key then do
      let ids := sortIds ((← t.edges.attached (some key)).map fun e => e.key.id)
      return .document 200 (.obj [("vertex", .str id), ("edges", .arr (ids.map .str))])
    else .ok (missing "Vertex" id)
  | .file _ => .ok (.refusal 404 nowhereText)
  | .selection | .refresh | .reset => .ok (.bare 405)

/-- The answer to an operation: one that failed has the status 500 alone. -/
def orFailed : Except Fault Response → Response
  | .ok response => response
  | .error _ => .bare 500

/-- Answers what removes a vertex with its edges. -/
def delete (id : String) (t : Topology O) : Topology O × Response :=
  let key : Key := { ns := t.ns, id }
  if t.vertices.contains key then
    match t.edges.attached (some key) with
    | .error _ => (t, .bare 500)
    | .ok edges =>
      let ids := edges.map fun e => e.key.id
      let (t, result) := t.removeAllWithEdges api.watch [some key]
      (t, orFailed (result.map fun _ =>
        .document 200 (.obj [("removed", .str id), ("removed_edges", .arr (ids.map .str))])))
  else (t, missing "Vertex" id)

/-- Answers what sends a document to a resource. -/
def post (resource : Resource) (body : Json) (t : Topology O) : Topology O × Response :=
  match resource with
  | .edges => api.connect body t
  | .selection =>
    match selection body t with
    | .ok document => (t, .document 200 document)
    | .error _ => (t, .bare 500)
  | .refresh =>
    match api.refresh t with
    | (t, .ok ()) =>
      (t, .document 200 (.obj [("status", .str "refreshed"), ("vertices", .int t.vertices.size),
        ("edges", .int t.edges.size)]))
    | (t, .error _) => (t, .bare 500)
  | .reset => (t.reset api.watch api.provider, .document 200 (.obj [("status", .str "reset")]))
  | .health | .vertices | .vertex _ | .vertexEdges _ | .edge _ | .file _ => (t, .bare 405)

/-- An answer without its body. -/
def head : Response → Response
  | .document status _ => .bare status
  | .refusal status _ => .bare status
  | .bare status => .bare status

/-- Answers a method that is asked of a destination. -/
def route (method : String) (destination : Destination) (body : Json) (t : Topology O) :
    Topology O × Response :=
  match destination with
  | .nowhere => (t, .refusal 404 nowhereText)
  | .wrongMethod => (t, .bare 405)
  | .noWebSocket => (t, .refusal 400 misaddressedText)
  | .elsewhere => (t, .bare 308)
  | .options => (t, .bare 200)
  | .resource resource =>
    match method, resource with
    | "DELETE", .vertex id => api.delete id t
    | "POST", resource => api.post resource body t
    | _, resource => (t, orFailed (api.get resource t))

/-- Answers a request, if its address can be read at all.  To ask for the head of an answer is to
ask for the answer and be spared its body. -/
def handle (request : Request) (t : Topology O) : Topology O × Except Fault Response :=
  match request.recipient with
  | .error fault => (t, .error fault)
  | .ok recipient =>
    let (t, response) :=
      if recipient.isProper then
        let method := request.methodName
        api.route method (recipient.destination method) request.document t
      else (t, .refusal 400 misaddressedText)
    (t, .ok (if request.method = "HEAD" then head response else response))

end Api

end NetworkTopology.Rest
