import NetworkTopology.Entity.Basic
import NetworkTopology.Json.Order

/-!
# Criteria

A query may carry criteria, and answers with the entities that meet all of them.  A criterion may
fail; it is asked only while those before it are met.  `Criterion` names the usual ones.
-/

namespace NetworkTopology

/-- Questions to ask of each entity; asking may fail. -/
abbrev Criteria := List (Entity → Except Fault Bool)

namespace Criteria

/-- Does an entity meet all criteria?  The first one that is not met or fails decides. -/
def met : Criteria → Entity → Except Fault Bool
  | [], _ => .ok true
  | criterion :: criteria, entity => do
    if ← criterion entity then met criteria entity else return false

/-- The entities that meet all criteria, in order. -/
def select (criteria : Criteria) : List Entity → Except Fault (List Entity)
  | [] => .ok []
  | entity :: entities => do
    let keep ← met criteria entity
    let rest ← select criteria entities
    return if keep then entity :: rest else rest

@[simp] theorem met_nil (entity : Entity) : met [] entity = .ok true := rfl

@[simp] theorem select_nil (entities : List Entity) : select [] entities = .ok entities := by
  induction entities with
  | nil => rfl
  | cons entity entities ih => simp [select, ih, bind, Except.bind, pure, Except.pure]

end Criteria

/-- The usual criteria. -/
inductive Criterion where
  /-- The same answer for all. -/
  | constant (value : Bool)
  /-- The vertex is bound to a managed node. -/
  | hasNode
  /-- The node id, or zero when it is not truthy, is above a value. -/
  | nodeAbove (bound : Json)
  /-- The label, or no text when it is not truthy, starts with a text. -/
  | labelStarts (start : Json)
  /-- The id is this one. -/
  | idIs (id : String)
  /-- The vertex is collapsible. -/
  | collapsible
  /-- The edge is attached to a vertex; to none, when no vertex is given. -/
  | touches (vertex : Option Key)
  /-- Asking fails. -/
  | failing
  deriving DecidableEq, Repr

/-- Does a label start with something?  Only a text starts with anything, and only with a text. -/
def labelTextStarts : Json → Json → Except Fault Bool
  | .str start, .str label => .ok (start.toList.isPrefixOf label.toList)
  | _, .str _ => .error .notText
  | _, _ => .error (.missingAttribute "startswith")

/-- Asks an entity.  A criterion about vertices fails on other entities, and one about edges too. -/
def Criterion.ask : Criterion → Entity → Except Fault Bool
  | constant value, _ => .ok value
  | hasNode, .vertex v => .ok (v.nodeId != .null)
  | hasNode, _ => .error (.missingAttribute "node_id")
  | nodeAbove bound, .vertex v =>
    match (v.nodeId.orElse (.int 0)).exceeds? bound with
    | some answer => .ok answer
    | none => .error .incomparable
  | nodeAbove _, _ => .error (.missingAttribute "node_id")
  | labelStarts start, entity =>
    match entity.label? with
    | some label => labelTextStarts start (label.orElse (.str ""))
    | none => .error (.missingAttribute "label")
  | idIs id, entity => .ok (entity.key.id == id)
  | collapsible, entity =>
    match entity.isCollapsible? with
    | some answer => .ok answer
    | none => .error (.missingAttribute "is_collapsible")
  | touches vertex, .edge e => .ok (vertex.any e.connects)
  | touches _, _ => .error (.missingAttribute "connects")
  | failing, entity => .error (.scripted ("criterion failed on " ++ entity.key.id))

/-- The criteria that usual ones stand for. -/
def Criteria.of (criteria : List Criterion) : Criteria :=
  criteria.map Criterion.ask

end NetworkTopology
