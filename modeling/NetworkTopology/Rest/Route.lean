import NetworkTopology.Rest.Request

/-!
# Routes

The requests that are answered, by path and method.  An id in a path is never empty and holds no
slash.  There is a place for static files, too, but there are none in it.
-/

namespace NetworkTopology.Rest

/-- What a path names. -/
inductive Resource where
  | health
  | vertices
  | vertex (id : String)
  | vertexEdges (id : String)
  | edges
  | edge (id : String)
  | selection
  | refresh
  | reset
  /-- A static file. -/
  | file (name : List Char)
  deriving DecidableEq, Repr

/-- The id that a part of a path is. -/
def idOf (part : List Char) : Option String :=
  if part.isEmpty then none else some (String.ofList part)

/-- What the parts of a path behind the common start name. -/
def Resource.ofParts : List (List Char) → Option Resource
  | [part] =>
    match String.ofList part with
    | "health" => some health
    | "vertices" => some vertices
    | "edges" => some edges
    | "selection" => some selection
    | "refresh" => some refresh
    | "reset" => some reset
    | _ => none
  | [part, id] =>
    match String.ofList part with
    | "vertices" => (idOf id).map vertex
    | "edges" => (idOf id).map edge
    | _ => none
  | [part, id, last] =>
    if String.ofList part = "vertices" ∧ String.ofList last = "edges" then
      (idOf id).map vertexEdges
    else none
  | _ => none

/-- Can a text be the name of a file?  It must not be empty or start with a slash, and a line end
may stand in front only. -/
def isFileName : List Char → Bool
  | [] => false
  | c :: cs => c != '/' && !cs.contains '\n'

/-- The static file that a path names. -/
def Resource.ofFilePath (path : List Char) : Option Resource :=
  let start := "static/".toList
  if start.isPrefixOf path && isFileName (path.drop start.length) then
    some (file (path.drop start.length))
  else none

/-- What a path without slashes in front names. -/
def Resource.ofPath (path : List Char) : Option Resource :=
  match Text.split (· == '/') path with
  | api :: version :: parts =>
    if String.ofList api = "api" ∧ String.ofList version = "v1" then ofParts parts
    else ofFilePath path
  | _ => none

/-- The methods that a resource answers, those together that are answered alike: whatever is read
can also be asked for its head. -/
def Resource.offers : Resource → List (List String)
  | health | vertices | vertexEdges _ | edge _ | file _ => [["GET", "HEAD"]]
  | vertex _ => [["GET", "HEAD"], ["DELETE"]]
  | edges => [["GET", "HEAD"], ["POST"]]
  | selection | refresh | reset => [["POST"]]

def Resource.methods (r : Resource) : List String :=
  r.offers.flatten

/-- Where a request leads. -/
inductive Destination where
  /-- To a resource that answers the method. -/
  | resource (resource : Resource)
  /-- To the list of methods. -/
  | options
  /-- To the path with merged slashes. -/
  | elsewhere
  /-- To a resource that does not answer the method. -/
  | wrongMethod
  /-- To a resource that is no web socket. -/
  | noWebSocket
  /-- Nowhere. -/
  | nowhere
  deriving DecidableEq, Repr

/-- Where a method and a path lead. -/
def Destination.find (method : String) (path : List Char) : Destination :=
  match Resource.ofPath path with
  | some r =>
    if r.methods.contains method then .resource r
    else if method = "OPTIONS" then .options else .wrongMethod
  | none =>
    match Resource.ofPath (mergeSlashes path) with
    | some r =>
      if r.methods.contains method ∨ method = "OPTIONS" then .elsewhere else .wrongMethod
    | none => .nowhere

/-- Where a method and a path lead over a web socket.  Nothing is offered there; the method is
blamed for that if there is an offer without it. -/
def Destination.findOverWebSocket (method : String) (path : List Char) : Destination :=
  match (Resource.ofPath path).or (Resource.ofPath (mergeSlashes path)) with
  | some r =>
    if method = "OPTIONS" ∨ r.offers.all (·.contains method) then .noWebSocket else .wrongMethod
  | none => .nowhere

/-- Where a method leads, asked of a recipient. -/
def Recipient.destination (r : Recipient) (method : String) : Destination :=
  if r.overWebSocket then .findOverWebSocket method r.path else .find method r.path

end NetworkTopology.Rest
