import NetworkTopology.Proofs.Topology.Quiet
import NetworkTopology.Session.Query

/-!
# Interactions seen through a map of the observers

An interaction is an operation or a question.  Observers may be replaced by others
whose states are images of theirs: if what the one do looks, through the map of the
states, like what the others do, then the replies to any interactions are the same,
and so are the topologies on the way, but for the observers.
-/

namespace NetworkTopology

variable {O O' : Type}

/-! ## Interactions -/

/-- An operation, or a question to someone. -/
inductive Interaction where
  | operate (op : Operation)
  | ask (question : Session.Query) (target : Session.Target)

inductive Interaction.Reply where
  | done (result : Operation.Result)
  | told (outcome : Session.Outcome)

def Interaction.perform (watch : Observation O) (t : Topology O) :
    Interaction → Topology O × Except Fault Reply
  | operate op =>
      let (t, result) := op.perform watch t
      (t, result.map .done)
  | ask question target => (t, (question.ask target t).map .told)

/-- What interactions lead to, one after the other: each time the topology and the
reply. -/
def interact (watch : Observation O) :
    List Interaction → Topology O → List (Topology O × Except Fault Interaction.Reply)
  | [], _ => []
  | i :: is, t =>
      let served := i.perform watch t
      served :: interact watch is served.1

/-! ## Maps of observers -/

/-- The same topology under the images of its observers. -/
def Topology.mapObservers (f : O → O') (t : Topology O) : Topology O' :=
  { t with observers := f t.observers }

/-- Through a map of the states, what some observers do looks like what others do. -/
structure Observation.Maps (f : O → O') (watch : Observation O) (watch' : Observation O') :
    Prop where
  warns : ∀ warning o, f (watch.onWarning warning o) = watch'.onWarning warning (f o)
  reacts : ∀ kind event t,
    (watch.on kind event t).mapObservers f = watch'.on kind event (t.mapObservers f)

theorem ask_mapObservers (f : O → O') (question : Session.Query) (target : Session.Target)
    (t : Topology O) : question.ask target (t.mapObservers f) = question.ask target t := by
  cases question <;> rfl

namespace Observation.Maps

open NetworkTopology.Topology

variable {f : O → O'} {watch : Observation O} {watch' : Observation O'}

theorem warn (h : watch.Maps f watch') (warning : Warning) (t : Topology O) :
    (t.warn watch warning).mapObservers f = (t.mapObservers f).warn watch' warning := by
  simp only [mapObservers, Topology.warn, h.warns]

theorem foldl_warn (h : watch.Maps f watch') (warning : Entity → String → Warning)
    (refused : List Entity) (t : Topology O) :
    (refused.foldl (fun t entity => t.warn watch (warning entity t.ns)) t).mapObservers f =
      refused.foldl (fun t entity => t.warn watch' (warning entity t.ns))
        (t.mapObservers f) := by
  induction refused generalizing t with
  | nil => rfl
  | cons entity refused ih =>
      rw [List.foldl_cons, List.foldl_cons, ih, h.warn]
      rfl

theorem tellVertices (h : watch.Maps f watch') (event : Option ChangeEvent) (t : Topology O) :
    (t.tellVertices watch event).mapObservers f =
      (t.mapObservers f).tellVertices watch' event := by
  cases event with
  | none => rfl
  | some event => exact h.reacts .vertices event t

theorem tellEdges (h : watch.Maps f watch') (event : Option ChangeEvent) (t : Topology O) :
    (t.tellEdges watch event).mapObservers f = (t.mapObservers f).tellEdges watch' event := by
  cases event with
  | none => rfl
  | some event => exact h.reacts .edges event t

theorem mutate (h : watch.Maps f watch') (kind : StoreKind) (m : Store.Mutation)
    (t : Topology O) :
    (t.mutate watch kind m).mapObservers f = (t.mapObservers f).mutate watch' kind m := by
  cases kind with
  | vertices =>
      cases m with
      | add entities =>
          simp only [Topology.mutate, addVertices]
          rw [h.tellVertices, h.foldl_warn (.foreign .vertices)]
          rfl
      | remove keys => exact h.tellVertices _ _
      | clear => exact h.tellVertices _ _
  | edges =>
      cases m with
      | add entities =>
          simp only [Topology.mutate, addEdges]
          rw [h.tellEdges, h.foldl_warn (.foreign .edges)]
          rfl
      | remove keys => exact h.tellEdges _ _
      | clear => exact h.tellEdges _ _

theorem reset (h : watch.Maps f watch') (p : Nat) (t : Topology O) :
    (t.reset watch p).mapObservers f = (t.mapObservers f).reset watch' p := by
  have hvertices := h.mutate .vertices .clear t
  have hedges := h.mutate .edges .clear (t.mutate watch .vertices .clear)
  rw [hvertices] at hedges
  exact congrArg (Topology.clearCounters p) hedges

/-! ## Steps that may fail -/

/-- A step through the map. -/
abbrev through {α : Type} (f : O → O') :
    Topology O × Except Fault α → Topology O' × Except Fault α :=
  Prod.map (mapObservers f) id

theorem connect (h : watch.Maps f watch') (p : Nat) (source target : Option Key)
    (t : Topology O) :
    through f (t.connect watch p source target) =
      (t.mapObservers f).connect watch' p source target := by
  cases source with
  | none =>
      cases target with
      | none => exact Prod.ext (h.warn .noEnds t) rfl
      | some target => exact Prod.ext (h.warn .noSource t) rfl
  | some source =>
      cases target with
      | none => exact Prod.ext (h.warn .noTarget t) rfl
      | some target =>
          have hnext : (t.mapObservers f).nextEdgeId p = through f (t.nextEdgeId p) := rfl
          rw [Topology.connect, Topology.connect, hnext]
          cases hid : t.nextEdgeId p with
          | mk counted result =>
              cases result with
              | error fault => rfl
              | ok id => exact Prod.ext (h.mutate .edges (.add _) counted) rfl

theorem connectAll (h : watch.Maps f watch') (p : Nat) (pairs : List (Key × Key))
    (t : Topology O) :
    through f (t.connectAll watch p pairs) = (t.mapObservers f).connectAll watch' p pairs := by
  induction pairs generalizing t with
  | nil => rfl
  | cons pair pairs ih =>
      obtain ⟨source, target⟩ := pair
      have hconnect := h.connect p (some source) (some target) t
      rw [Topology.connectAll, Topology.connectAll, ← hconnect]
      cases hresult : t.connect watch p (some source) (some target) with
      | mk after result =>
          cases result with
          | error fault => rfl
          | ok edge => exact ih after

theorem removeWithEdges (h : watch.Maps f watch') (vertex : Option Key) (t : Topology O) :
    through f (t.removeWithEdges watch vertex) =
      (t.mapObservers f).removeWithEdges watch' vertex := by
  cases vertex with
  | none => exact Prod.ext (h.warn .noVertex t) rfl
  | some vertex =>
      have hbare : (t.removeVertices watch [some vertex]).mapObservers f =
          (t.mapObservers f).removeVertices watch' [some vertex] :=
        h.mutate .vertices (.remove [some vertex]) t
      have hedges : ((t.removeVertices watch [some vertex]).mapObservers f).edges =
          (t.removeVertices watch [some vertex]).edges := rfl
      rw [Topology.removeWithEdges, Topology.removeWithEdges, ← hbare, hedges]
      cases (t.removeVertices watch [some vertex]).edges.attached (some vertex) with
      | error fault => rfl
      | ok edges => exact Prod.ext (h.mutate .edges (.remove _) _) rfl

theorem removeAllWithEdges (h : watch.Maps f watch') (vertices : List (Option Key))
    (t : Topology O) :
    through f (t.removeAllWithEdges watch vertices) =
      (t.mapObservers f).removeAllWithEdges watch' vertices := by
  induction vertices generalizing t with
  | nil => rfl
  | cons vertex vertices ih =>
      have hremove := h.removeWithEdges vertex t
      rw [Topology.removeAllWithEdges, Topology.removeAllWithEdges, ← hremove]
      cases hresult : t.removeWithEdges watch vertex with
      | mk after result =>
          cases result with
          | error fault => rfl
          | ok done => exact ih after

theorem refresh (h : watch.Maps f watch') (p : Nat) (loaded : Except Fault Graph)
    (t : Topology O) :
    through f (t.refresh watch p loaded) = (t.mapObservers f).refresh watch' p loaded := by
  have hns : (t.mapObservers f).ns = t.ns := rfl
  rw [Topology.refresh, Topology.refresh, hns]
  cases loaded >>= convert t.ns with
  | error fault => rfl
  | ok converted =>
      obtain ⟨vertices, pairs⟩ := converted
      have hfilled := h.mutate .vertices (.add (vertices.map fun v => some (.vertex v)))
        (t.reset watch p)
      rw [h.reset] at hfilled
      have hconnected := h.connectAll p pairs
        ((t.reset watch p).addVertices watch (vertices.map fun v => some (.vertex v)))
      rw [hconnected]
      exact congrArg (fun filled => filled.connectAll watch' p pairs) hfilled

/-! ## Whole operations -/

theorem perform (h : watch.Maps f watch') (op : Operation) (t : Topology O) :
    through f (op.perform watch t) = op.perform watch' (t.mapObservers f) := by
  cases op with
  | mutate kind m => exact Prod.ext (h.mutate kind m t) rfl
  | connect p source target =>
      simp only [Operation.perform]
      rw [← h.connect]
      rfl
  | removeWithEdges vertices =>
      simp only [Operation.perform]
      rw [← h.removeAllWithEdges]
      rfl
  | reset p => exact Prod.ext (h.reset p t) rfl
  | refresh p loaded =>
      simp only [Operation.perform]
      rw [← h.refresh]
      rfl
  | clearCounters p => rfl
  | nextVertexId p => rfl
  | nextEdgeId p => rfl

theorem perform_interaction (h : watch.Maps f watch') (i : Interaction) (t : Topology O) :
    through f (i.perform watch t) = i.perform watch' (t.mapObservers f) := by
  cases i with
  | operate op =>
      simp only [Interaction.perform]
      rw [← h.perform]
      rfl
  | ask question target =>
      simp only [Interaction.perform]
      rw [ask_mapObservers]
      rfl

/-- Seen through the map, interactions go the same way. -/
theorem interact (h : watch.Maps f watch') (is : List Interaction) (t : Topology O) :
    (interact watch is t).map (through f) = interact watch' is (t.mapObservers f) := by
  induction is generalizing t with
  | nil => rfl
  | cons i is ih =>
      simp only [NetworkTopology.interact, List.map_cons]
      rw [ih, ← h.perform_interaction]
      rfl

end Observation.Maps

end NetworkTopology
