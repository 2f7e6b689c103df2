import NetworkTopology.Proofs.Topology.Operation

/-!
# Observers that do not call back

Where no observer touches the topology, an operation does to the stores and to
the providers what its mutations do, and nothing else.
-/

namespace NetworkTopology

variable {O : Type}

/-- Observers that do not touch the topology: at most their own state changes. -/
def Observation.Quiet (watch : Observation O) : Prop :=
  ∀ kind event t, ∃ o, watch.on kind event t = { t with observers := o }

theorem Observation.silent_quiet (O : Type) : (Observation.silent O).Quiet := by
  intro kind event t
  cases kind <;> exact ⟨t.observers, rfl⟩

namespace Observation.Quiet

variable {watch : Observation O}

/-- A mutation leads to the state that it commits, but for the observers. -/
theorem exists_committed (h : watch.Quiet) (kind : StoreKind) (m : Store.Mutation)
    (t : Topology O) :
    ∃ committed o, Topology.Committed watch kind m t committed ∧
      t.mutate watch kind m = { committed with observers := o } := by
  obtain ⟨committed, hcommitted, hmutate⟩ := t.exists_committed watch kind m
  cases hevent : (t.store kind).event? m with
  | none =>
      rw [hevent] at hmutate
      exact ⟨committed, committed.observers, hcommitted, hmutate⟩
  | some event =>
      rw [hevent] at hmutate
      obtain ⟨o, heq⟩ := h kind event committed
      exact ⟨committed, o, hcommitted, hmutate.trans heq⟩

theorem store_mutate (h : watch.Quiet) (kind : StoreKind) (m : Store.Mutation)
    (t : Topology O) : (t.mutate watch kind m).store kind = (t.store kind).mutate m := by
  obtain ⟨committed, o, hcommitted, hmutate⟩ := h.exists_committed kind m t
  rw [hmutate, ← hcommitted.store_eq]
  cases kind <;> rfl

theorem store_mutate_of_ne (h : watch.Quiet) (kind other : StoreKind) (hne : other ≠ kind)
    (m : Store.Mutation) (t : Topology O) :
    (t.mutate watch kind m).store other = t.store other := by
  obtain ⟨committed, o, hcommitted, hmutate⟩ := h.exists_committed kind m t
  rw [hmutate, ← hcommitted.other_eq other hne]
  cases other <;> rfl

theorem providers_mutate (h : watch.Quiet) (kind : StoreKind) (m : Store.Mutation)
    (t : Topology O) : (t.mutate watch kind m).providers = t.providers := by
  obtain ⟨committed, o, hcommitted, hmutate⟩ := h.exists_committed kind m t
  rw [hmutate]
  exact hcommitted.providers_eq

theorem vertices_reset (h : watch.Quiet) (p : Nat) (t : Topology O) :
    (t.reset watch p).vertices = t.vertices.clear := by
  have hvertices := h.store_mutate .vertices .clear t
  have hedges := h.store_mutate_of_ne .edges .vertices (by decide) .clear
    (t.mutate watch .vertices .clear)
  exact hedges.trans hvertices

theorem edges_reset (h : watch.Quiet) (p : Nat) (t : Topology O) :
    (t.reset watch p).edges = t.edges.clear := by
  have hvertices := h.store_mutate_of_ne .vertices .edges (by decide) .clear t
  have hedges := h.store_mutate .edges .clear (t.mutate watch .vertices .clear)
  exact hedges.trans (congrArg Store.clear hvertices)

theorem providers_reset (h : watch.Quiet) (p : Nat) (t : Topology O) :
    (t.reset watch p).providers = (t.clearCounters p).providers := by
  have hvertices := h.providers_mutate .vertices .clear t
  have hedges := h.providers_mutate .edges .clear (t.mutate watch .vertices .clear)
  have hproviders := hedges.trans hvertices
  change ((t.clearVertices watch).clearEdges watch).providers = t.providers at hproviders
  simp only [Topology.reset, Topology.clearCounters, Topology.setProvider, Topology.provider,
    hproviders]

end Observation.Quiet

end NetworkTopology
