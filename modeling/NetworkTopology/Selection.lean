import NetworkTopology.Entity.Basic
import NetworkTopology.NodeId
import NetworkTopology.Text.Blank

/-!
# Selections

Selected vertices are mapped to a selection by which other views filter their content: the node ids
of the vertices, for a view of alarms or of nodes, and nothing for any other view.
-/

namespace NetworkTopology

/-- What a view shows. -/
inductive ContentType where
  | alarm
  | node
  | application
  | businessService
  | ipService
  deriving DecidableEq, Repr

namespace ContentType

def all : List ContentType := [alarm, node, application, businessService, ipService]

def value : ContentType → String
  | alarm => "alarm"
  | node => "node"
  | application => "application"
  | businessService => "business_service"
  | ipService => "ip_service"

/-- A name with small letters and with hyphens and spaces written as underscores, blanks at its ends
removed.  No letter beyond the ASCII ones has a small form that occurs in a value, so the others may
stay as they are. -/
def token (name : String) : String :=
  String.ofList ((Text.trim name.toList).map fun c =>
    if c = '-' ∨ c = ' ' then '_' else c.toLower)

def ofName (name : String) : Option ContentType :=
  all.find? fun contentType => contentType.value == token name

/-- The content type that a document names; only a string does. -/
def ofDocument : Json → Option ContentType
  | .str name => ofName name
  | _ => none

end ContentType

/-- A selection: of nothing, of nodes, or of the alarms on nodes.  Ids are kept without
repetition. -/
inductive Selection where
  | nothing
  | nodes (ids : List NodeId)
  | alarms (ids : List NodeId)
  deriving DecidableEq, Repr

namespace Selection

def ids? : Selection → Option (List NodeId)
  | nothing => none
  | nodes ids => some ids
  | alarms ids => some ids

def typeName : Selection → String
  | nothing => "Selection"
  | nodes _ => "IdSelection"
  | alarms _ => "AlarmNodeIdSelection"

/-- Nothing is selected. -/
def isEmpty (s : Selection) : Bool :=
  (s.ids?.getD []).isEmpty

/-- Is an id, in any spelling, among others? -/
def holds (ids : List NodeId) (id : NodeId) : Bool :=
  ids.any fun other => decide (other.Same id)

/-- Adds an id, unless it is there in some spelling. -/
def insertId (ids : List NodeId) (id : NodeId) : List NodeId :=
  if holds ids id then ids else ids ++ [id]

def sameIds (xs ys : List NodeId) : Bool :=
  xs.all (holds ys) && ys.all (holds xs)

/-- Selections of one type with the same ids are equal. -/
def same : Selection → Selection → Bool
  | nothing, nothing => true
  | nodes xs, nodes ys => sameIds xs ys
  | alarms xs, alarms ys => sameIds xs ys
  | _, _ => false

/-- The node id of a selected vertex; a vertex of another namespace or without a node has none, and
neither has anything that is no vertex. -/
def nodeIdOf (ns : String) : Option Entity → Except Fault (Option NodeId)
  | some (.vertex v) =>
    if v.key.ns = ns ∧ v.nodeId ≠ .null then do return some (← NodeId.ofScalar v.nodeId)
    else .ok none
  | _ => .ok none

/-- The node ids of selected vertices. -/
def collect (ns : String) (ids : List NodeId) : List (Option Entity) → Except Fault (List NodeId)
  | [] => .ok ids
  | selected :: rest => do
    match ← nodeIdOf ns selected with
    | some id => collect ns (insertId ids id) rest
    | none => collect ns ids rest

def ofIds (ids : List NodeId) : Option ContentType → Selection
  | some .alarm => alarms ids
  | some .node => nodes ids
  | _ => nothing

/-- Maps selected vertices of a namespace to the selection for a content type. -/
def make (ns : String) (selected : List (Option Entity)) (contentType : Option ContentType) :
    Except Fault Selection := do
  return ofIds (← collect ns [] selected) contentType

/-- The ids of a selection by id, in ascending order; ids without a common order cannot be
listed. -/
def listing (s : Selection) : Except Fault (Option (List NodeId)) :=
  match s.ids? with
  | some ids => do return some (← NodeId.sorted ids)
  | none => .ok none

end Selection

end NetworkTopology
