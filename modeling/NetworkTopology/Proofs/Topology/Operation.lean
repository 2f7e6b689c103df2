import NetworkTopology.Proofs.Store.Replay
import NetworkTopology.Topology.Provider

/-!
# Operations and those who are told of them

An operation is a call on one of the stores or on a provider.  Observers are told
of every change while the operation is still going on and may carry out
operations in turn, of which they are told again; `Observation.Reentrant` says
that this goes on to a finite depth.  Whatever an operation does, it does by
mutations of the two stores and by use of the id generators
(`Operation.evolves`), so what these preserve is preserved by all operations.
-/

namespace NetworkTopology

variable {O : Type}

/-! ## Stores by kind -/

namespace Topology

/-- A topology without content. -/
def blank (providers : List Provider) (observers : O) : Topology O :=
  { vertices := .empty "n", edges := .empty "n", edges_ns := rfl, providers, observers }

def store (t : Topology O) : StoreKind → Store
  | .vertices => t.vertices
  | .edges => t.edges

def mutate (watch : Observation O) (kind : StoreKind) (m : Store.Mutation)
    (t : Topology O) : Topology O :=
  match kind, m with
  | .vertices, .add entities => t.addVertices watch entities
  | .vertices, .remove keys => t.removeVertices watch keys
  | .vertices, .clear => t.clearVertices watch
  | .edges, .add entities => t.addEdges watch entities
  | .edges, .remove keys => t.removeEdges watch keys
  | .edges, .clear => t.clearEdges watch

end Topology

/-- What observers do when the store of a kind has changed. -/
def Observation.on (watch : Observation O) :
    StoreKind → ChangeEvent → Topology O → Topology O
  | .vertices => watch.onVertices
  | .edges => watch.onEdges

/-! ## Operations -/

/-- A call on a store or on the provider of a number. -/
inductive Operation where
  | mutate (kind : StoreKind) (m : Store.Mutation)
  | connect (p : Nat) (source target : Option Key)
  | removeWithEdges (vertices : List (Option Key))
  | reset (p : Nat)
  | refresh (p : Nat) (loaded : Except Fault Graph)
  | clearCounters (p : Nat)
  | nextVertexId (p : Nat)
  | nextEdgeId (p : Nat)

/-- What an operation returns: nothing, an id, or an edge unless an end was
missing. -/
inductive Operation.Result where
  | nothing
  | id (value : String)
  | edge (value : Option Edge)
  deriving DecidableEq, Repr

/-- Carries out an operation. -/
def Operation.perform (watch : Observation O) (t : Topology O) :
    Operation → Topology O × Except Fault Operation.Result
  | mutate kind m => (t.mutate watch kind m, .ok .nothing)
  | connect p source target =>
      let (t, edge) := t.connect watch p source target
      (t, edge.map .edge)
  | removeWithEdges vertices =>
      let (t, result) := t.removeAllWithEdges watch vertices
      (t, result.map fun _ => .nothing)
  | reset p => (t.reset watch p, .ok .nothing)
  | refresh p loaded =>
      let (t, result) := t.refresh watch p loaded
      (t, result.map fun _ => .nothing)
  | clearCounters p => (t.clearCounters p, .ok .nothing)
  | nextVertexId p =>
      let (t, id) := t.nextVertexId p
      (t, id.map .id)
  | nextEdgeId p =>
      let (t, id) := t.nextEdgeId p
      (t, id.map .id)

/-! ## Runs and nested runs -/

/-- Operations carried out in order.  In between, the observers' own state may
change as `free` allows: listeners come and go, and remember things. -/
inductive Runs (free : O → O → Prop) (watch : Observation O) :
    Topology O → Topology O → Prop
  | refl (t : Topology O) : Runs free watch t t
  | remember {t t' : Topology O} (run : Runs free watch t t') {o : O}
      (h : free t'.observers o) : Runs free watch t { t' with observers := o }
  | perform {t t' : Topology O} (run : Runs free watch t t') (op : Operation) :
      Runs free watch t (op.perform watch t').1

theorem Runs.trans {free : O → O → Prop} {watch : Observation O} {t t' t'' : Topology O}
    (h : Runs free watch t t') (h' : Runs free watch t' t'') : Runs free watch t t'' := by
  induction h' with
  | refl => exact h
  | remember _ hfree ih => exact ih.remember hfree
  | perform _ op ih => exact ih.perform op

/-- Observers that do nothing to the topology when they are told of a change:
after `hear`, only their own state changes, as `free` allows. -/
structure Observation.Passive (hear : StoreKind → ChangeEvent → Topology O → Topology O)
    (free : O → O → Prop) (watch : Observation O) : Prop where
  warns : ∀ warning o, free o (watch.onWarning warning o)
  reacts : ∀ kind event t, ∃ o, free (hear kind event t).observers o ∧
    watch.on kind event t = { hear kind event t with observers := o }

/-- Observers that may carry out operations when they are told of a change,
after `hear`.  They are told of these operations, too, and so on; but the
nesting ends. -/
inductive Observation.Reentrant (hear : StoreKind → ChangeEvent → Topology O → Topology O)
    (free : O → O → Prop) : Observation O → Prop
  | passive {watch : Observation O} (h : watch.Passive hear free) : Reentrant hear free watch
  | nested {inner watch : Observation O} (h : Reentrant hear free inner)
      (warns : ∀ warning o, free o (watch.onWarning warning o))
      (reacts : ∀ kind event t, Runs free inner (hear kind event t) (watch.on kind event t)) :
      Reentrant hear free watch

theorem Observation.Reentrant.warns {hear : StoreKind → ChangeEvent → Topology O → Topology O}
    {free : O → O → Prop} {watch : Observation O} (h : watch.Reentrant hear free)
    (warning : Warning) (o : O) : free o (watch.onWarning warning o) := by
  cases h with
  | passive h => exact h.warns warning o
  | nested _ warns _ => exact warns warning o

/-! ## Mutations -/

namespace Topology

/-- The topology after a mutation, before anyone is told. -/
structure Committed (watch : Observation O) (kind : StoreKind) (m : Store.Mutation)
    (t committed : Topology O) : Prop where
  store_eq : committed.store kind = (t.store kind).mutate m
  other_eq : ∀ other, other ≠ kind → committed.store other = t.store other
  providers_eq : committed.providers = t.providers
  warned : ∃ warnings : List Warning, committed.observers =
    warnings.foldl (fun o warning => watch.onWarning warning o) t.observers

theorem foldl_warn (watch : Observation O) (warning : Entity → String → Warning)
    (refused : List Entity) (t : Topology O) :
    refused.foldl (fun t entity => t.warn watch (warning entity t.ns)) t =
      { t with
        observers := (refused.map fun entity => warning entity t.ns).foldl
          (fun o warning => watch.onWarning warning o) t.observers } := by
  induction refused generalizing t with
  | nil => rfl
  | cons entity refused ih =>
      rw [List.foldl_cons, ih]
      rfl

/-- A mutation changes its store and nothing else, and then the observers are
told, if there is an event. -/
theorem exists_committed (watch : Observation O) (kind : StoreKind) (m : Store.Mutation)
    (t : Topology O) :
    ∃ committed, Committed watch kind m t committed ∧
      t.mutate watch kind m =
        match (t.store kind).event? m with
        | some event => watch.on kind event committed
        | none => committed := by
  cases kind with
  | vertices =>
      have others : ∀ {committed : Topology O}, committed.edges = t.edges →
          ∀ other, other ≠ StoreKind.vertices → committed.store other = t.store other := by
        intro committed h other hother
        cases other with
        | vertices => exact absurd rfl hother
        | edges => exact h
      cases m with
      | add entities =>
          simp only [mutate, addVertices, foldl_warn watch (.foreign .vertices)]
          refine ⟨_, ?_, rfl⟩
          exact ⟨rfl, others rfl, rfl, ⟨_, rfl⟩⟩
      | remove keys =>
          refine ⟨_, ?_, rfl⟩
          exact ⟨rfl, others rfl, rfl, ⟨[], rfl⟩⟩
      | clear =>
          refine ⟨_, ?_, rfl⟩
          exact ⟨rfl, others rfl, rfl, ⟨[], rfl⟩⟩
  | edges =>
      have others : ∀ {committed : Topology O}, committed.vertices = t.vertices →
          ∀ other, other ≠ StoreKind.edges → committed.store other = t.store other := by
        intro committed h other hother
        cases other with
        | vertices => exact h
        | edges => exact absurd rfl hother
      cases m with
      | add entities =>
          simp only [mutate, addEdges, foldl_warn watch (.foreign .edges)]
          refine ⟨_, ?_, rfl⟩
          exact ⟨rfl, others rfl, rfl, ⟨_, rfl⟩⟩
      | remove keys =>
          refine ⟨_, ?_, rfl⟩
          exact ⟨rfl, others rfl, rfl, ⟨[], rfl⟩⟩
      | clear =>
          refine ⟨_, ?_, rfl⟩
          exact ⟨rfl, others rfl, rfl, ⟨[], rfl⟩⟩

end Topology

/-! ## Operations in single steps -/

/-- A relation of topologies that holds of whatever a single step leads to: a
warning, a mutation of a store, a use of an id generator. -/
structure Observation.Keeps (watch : Observation O)
    (R : Topology O → Topology O → Prop) : Prop where
  refl : ∀ t, R t t
  trans : ∀ {t t' t''}, R t t' → R t' t'' → R t t''
  warn : ∀ warning t, R t (t.warn watch warning)
  mutate : ∀ kind m t, R t (t.mutate watch kind m)
  clearCounters : ∀ p t, R t (t.clearCounters p)
  nextVertexId : ∀ p t, R t (t.nextVertexId p).1
  nextEdgeId : ∀ p t, R t (t.nextEdgeId p).1

namespace Observation.Keeps

variable {watch : Observation O} {R : Topology O → Topology O → Prop}

theorem reset (h : watch.Keeps R) (p : Nat) (t : Topology O) : R t (t.reset watch p) :=
  h.trans (h.mutate .vertices .clear t)
    (h.trans (h.mutate .edges .clear _) (h.clearCounters p _))

theorem connect (h : watch.Keeps R) (p : Nat) (source target : Option Key) (t : Topology O) :
    R t (t.connect watch p source target).1 := by
  cases source with
  | none =>
      cases target with
      | none => exact h.warn .noEnds t
      | some target => exact h.warn .noSource t
  | some source =>
      cases target with
      | none => exact h.warn .noTarget t
      | some target =>
          have hnext := h.nextEdgeId p t
          rw [Topology.connect]
          split
          · rename_i after fault heq
            rw [heq] at hnext
            exact hnext
          · rename_i after id heq
            rw [heq] at hnext
            exact h.trans hnext (h.mutate .edges (.add _) after)

theorem connectAll (h : watch.Keeps R) (p : Nat) (pairs : List (Key × Key)) (t : Topology O) :
    R t (t.connectAll watch p pairs).1 := by
  induction pairs generalizing t with
  | nil => exact h.refl t
  | cons pair pairs ih =>
      obtain ⟨source, target⟩ := pair
      have hconnect := h.connect p (some source) (some target) t
      rw [Topology.connectAll]
      split
      · rename_i after fault heq
        rw [heq] at hconnect
        exact hconnect
      · rename_i after edge heq
        rw [heq] at hconnect
        exact h.trans hconnect (ih after)

theorem removeWithEdges (h : watch.Keeps R) (vertex : Option Key) (t : Topology O) :
    R t (t.removeWithEdges watch vertex).1 := by
  cases vertex with
  | none => exact h.warn .noVertex t
  | some vertex =>
      have hremove : R t (t.removeVertices watch [some vertex]) :=
        h.mutate .vertices (.remove [some vertex]) t
      simp only [Topology.removeWithEdges]
      split
      · exact h.trans hremove (h.mutate .edges (.remove _) _)
      · exact hremove

theorem removeAllWithEdges (h : watch.Keeps R) (vertices : List (Option Key))
    (t : Topology O) : R t (t.removeAllWithEdges watch vertices).1 := by
  induction vertices generalizing t with
  | nil => exact h.refl t
  | cons vertex vertices ih =>
      have hremove := h.removeWithEdges vertex t
      rw [Topology.removeAllWithEdges]
      split
      · rename_i after fault heq
        rw [heq] at hremove
        exact hremove
      · rename_i after heq
        rw [heq] at hremove
        exact h.trans hremove (ih after)

theorem refresh (h : watch.Keeps R) (p : Nat) (loaded : Except Fault Graph)
    (t : Topology O) : R t (t.refresh watch p loaded).1 := by
  rw [Topology.refresh]
  split
  · exact h.refl t
  · rename_i vertices pairs _
    exact h.trans (h.reset p t)
      (h.trans (h.mutate .vertices (.add _) _) (h.connectAll p pairs _))

/-- An operation consists of single steps. -/
theorem perform (h : watch.Keeps R) (op : Operation) (t : Topology O) :
    R t (op.perform watch t).1 := by
  cases op with
  | mutate kind m => exact h.mutate kind m t
  | connect p source target => exact h.connect p source target t
  | removeWithEdges vertices => exact h.removeAllWithEdges vertices t
  | reset p => exact h.reset p t
  | refresh p loaded => exact h.refresh p loaded t
  | clearCounters p => exact h.clearCounters p t
  | nextVertexId p => exact h.nextVertexId p t
  | nextEdgeId p => exact h.nextEdgeId p t

theorem runs {free : O → O → Prop} (h : watch.Keeps R)
    (remembers : ∀ t o, free t.observers o → R t { t with observers := o })
    {t t' : Topology O} (run : Runs free watch t t') : R t t' := by
  induction run with
  | refl => exact h.refl _
  | remember _ hfree ih => exact h.trans ih (remembers _ _ hfree)
  | perform _ op ih => exact h.trans ih (h.perform op _)

end Observation.Keeps

/-! ## Operations as mutations -/

/-- Mutations of the stores, uses of the id generators and changes of the
observers' own state, in any order. -/
inductive Evolves (free : O → O → Prop) (watch : Observation O) :
    Topology O → Topology O → Prop
  | refl (t : Topology O) : Evolves free watch t t
  | remember {t t' : Topology O} (run : Evolves free watch t t') {o : O}
      (h : free t'.observers o) : Evolves free watch t { t' with observers := o }
  | generate {t t' : Topology O} (run : Evolves free watch t t')
      (providers : List Provider) : Evolves free watch t { t' with providers }
  | mutate {t t' : Topology O} (run : Evolves free watch t t') (kind : StoreKind)
      (m : Store.Mutation) : Evolves free watch t (t'.mutate watch kind m)

theorem Evolves.trans {free : O → O → Prop} {watch : Observation O} {t t' t'' : Topology O}
    (h : Evolves free watch t t') (h' : Evolves free watch t' t'') :
    Evolves free watch t t'' := by
  induction h' with
  | refl => exact h
  | remember _ hfree ih => exact ih.remember hfree
  | generate _ providers ih => exact ih.generate providers
  | mutate _ kind m ih => exact ih.mutate kind m

theorem Evolves.keeps {free : O → O → Prop} {watch : Observation O}
    (warns : ∀ warning o, free o (watch.onWarning warning o)) :
    watch.Keeps (Evolves free watch) where
  refl := .refl
  trans := .trans
  warn warning t := (refl t).remember (warns warning _)
  mutate kind m t := (refl t).mutate kind m
  clearCounters _ t := (refl t).generate _
  nextVertexId _ t := (refl t).generate _
  nextEdgeId _ t := (refl t).generate _

/-- Whatever an operation does is done by mutations of the stores and use of the
id generators. -/
theorem Operation.evolves {free : O → O → Prop} {watch : Observation O}
    (warns : ∀ warning o, free o (watch.onWarning warning o)) (op : Operation)
    (t : Topology O) : Evolves free watch t (op.perform watch t).1 :=
  (Evolves.keeps warns).perform op t

theorem Runs.evolves {free : O → O → Prop} {watch : Observation O}
    (warns : ∀ warning o, free o (watch.onWarning warning o)) {t t' : Topology O}
    (run : Runs free watch t t') : Evolves free watch t t' :=
  (Evolves.keeps warns).runs (fun t _ h => (Evolves.refl t).remember h) run

end NetworkTopology
