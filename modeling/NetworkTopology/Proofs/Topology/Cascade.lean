import NetworkTopology.Proofs.Topology.Renewal
import NetworkTopology.Proofs.Topology.RoundTrip

/-!
# Removing several vertices with their edges

Vertices are removed one after the other, each with the edges that are attached to it
by then.  Although an edge may hang on two of them, may be a loop, or may hang on a
vertex that is stored nowhere, what remains is simple: the vertices that were not
named, and the edges of which neither end was.
-/

namespace NetworkTopology

variable {O : Type}

/-! ## What a removal removes -/

namespace Store

/-- What is stored under distinct keys is removed in the order of the keys. -/
theorem removed_of_stored {s : Store} {items : List Entity}
    (hmem : ∀ item ∈ items, item ∈ s.entries) (hkeys : (items.map Entity.key).Nodup) :
    (s.remove (items.map fun item => some item.key)).removed = items := by
  suffices h : ∀ removal : Removal, (∀ item ∈ items, item ∈ removal.store.entries) →
      ((items.map fun item => some item.key).foldl Removal.drop removal).removed =
        removal.removed ++ items from h { store := s } hmem
  clear hmem
  induction items with
  | nil =>
      intro removal _
      exact (List.append_nil _).symm
  | cons item items ih =>
      intro removal hstored
      rw [List.map_cons, List.nodup_cons] at hkeys
      have hfind : removal.store.find? item.key = some item :=
        find?_eq_some_iff.mpr ⟨hstored item List.mem_cons_self, rfl⟩
      have hdrop : removal.drop (some item.key) =
          { store := removal.store.erase item.key, removed := removal.removed ++ [item] } := by
        simp only [Removal.drop, hfind]
      rw [List.map_cons, List.foldl_cons, hdrop, ih hkeys.2, List.append_assoc,
        List.singleton_append]
      intro other hother
      rw [entries_erase, List.mem_filter, bne_iff_ne]
      refine ⟨hstored other (List.mem_cons_of_mem item hother), ?_⟩
      intro heq
      apply hkeys.1
      rw [← heq]
      exact List.mem_map_of_mem hother

theorem removed_attached {s : Store} {es : List Edge} (hes : s.entries = es.map .edge)
    (vertex : Key) :
    (s.remove ((es.filter fun e => e.connects vertex).map fun e => some e.key)).removed =
      (es.filter fun e => e.connects vertex).map .edge := by
  have hattached : ((es.filter fun e => e.connects vertex).map Entity.edge).Sublist s.entries := by
    rw [hes]
    exact List.filter_sublist.map _
  have hremoved := removed_of_stored (fun _ hmem => hattached.subset hmem)
    (s.nodup.sublist (hattached.map _))
  rw [List.map_map] at hremoved
  exact hremoved

theorem removed_single (s : Store) (key : Key) :
    (s.remove [some key]).removed = (s.find? key).toList := by
  simp only [remove, List.foldl_cons, List.foldl_nil, Removal.drop]
  cases s.find? key with
  | none => rfl
  | some entity => rfl

end Store

/-! ## Vertices gone with their edges -/

/-- Neither end of the edge is named. -/
def Edge.Outlasts (keys : List (Option Key)) (e : Edge) : Prop :=
  some e.sourceKey ∉ keys ∧ some e.targetKey ∉ keys

instance (keys : List (Option Key)) (e : Edge) : Decidable (e.Outlasts keys) :=
  inferInstanceAs (Decidable (_ ∧ _))

theorem Edge.outlasts_concat_none {keys : List (Option Key)} {e : Edge} :
    e.Outlasts (keys ++ [none]) ↔ e.Outlasts keys := by
  simp [Outlasts]

theorem Edge.outlasts_concat {keys : List (Option Key)} {vertex : Key} {e : Edge} :
    e.Outlasts (keys ++ [some vertex]) ↔ e.Outlasts keys ∧ ¬ e.connects vertex = true := by
  rw [Outlasts, Outlasts, Edge.connects_iff]
  simp only [List.mem_append, List.mem_singleton, Option.some.injEq]
  tauto

/-- From one topology to another, the vertices that are named were removed with the
edges attached to them, and nothing else has changed but the observers. -/
structure Topology.Cleared (keys : List (Option Key)) (es : List Edge) (t t' : Topology O) :
    Prop where
  vertices_eq : t'.vertices.entries = t.vertices.entries.filter fun v => some v.key ∉ keys
  edges_eq : t'.edges.entries = (es.filter fun e => e.Outlasts keys).map .edge
  ns_eq : t'.ns = t.ns
  providers_eq : t'.providers = t.providers

namespace Topology.Cleared

variable {watch : Observation O} {before keys : List (Option Key)} {es : List Edge}
  {t t' : Topology O}

theorem nil (hes : t.edges.entries = es.map .edge) : Cleared [] es t t := by
  refine ⟨?_, ?_, rfl, rfl⟩
  · exact (List.filter_eq_self.mpr fun v _ => by simp).symm
  · rw [hes, List.filter_eq_self.mpr]
    intro e _
    exact decide_eq_true ⟨List.not_mem_nil, List.not_mem_nil⟩

theorem find?_eq (h : Cleared before es t t') (vertex : Key) :
    t'.vertices.find? vertex = if some vertex ∈ before then none else t.vertices.find? vertex := by
  rw [Store.find?, h.vertices_eq, List.find?_filter]
  by_cases hnamed : some vertex ∈ before
  · rw [if_pos hnamed, List.find?_eq_none]
    intro v _ hv
    simp only [decide_eq_true_eq, beq_iff_eq] at hv
    obtain ⟨hnot, rfl⟩ := hv
    exact hnot hnamed
  · rw [if_neg hnamed, Store.find?]
    congr 1
    funext v
    rw [Bool.eq_iff_iff]
    simp only [decide_eq_true_eq, beq_iff_eq]
    constructor
    · exact And.right
    · rintro rfl
      exact ⟨hnamed, rfl⟩

theorem step (h : Cleared before es t t') (hquiet : watch.Quiet) (key : Option Key) :
    ∃ t'', t'.removeWithEdges watch key = (t'', .ok ()) ∧ Cleared (before ++ [key]) es t t'' := by
  cases key with
  | none =>
      refine ⟨_, rfl, ?_, ?_, h.ns_eq, h.providers_eq⟩
      · refine h.vertices_eq.trans (List.filter_congr ?_)
        intro v _
        simp
      · refine h.edges_eq.trans (congrArg _ (List.filter_congr ?_))
        intro e _
        simp only [Edge.outlasts_concat_none]
  | some vertex =>
      obtain ⟨t'', hremove, hdetached⟩ := hquiet.removeWithEdges h.edges_eq vertex
      refine ⟨t'', hremove, ?_, ?_, ?_, hdetached.providers_eq.trans h.providers_eq⟩
      · rw [hdetached.vertices_eq, Store.entries_remove, h.vertices_eq, List.filter_filter]
        apply List.filter_congr
        intro v _
        simp [Bool.and_comm]
      · rw [hdetached.entries_eq, Edge.apart, List.filter_filter]
        apply congrArg
        apply List.filter_congr
        intro e _
        simp [Edge.outlasts_concat, Bool.and_comm]
      · refine Eq.trans ?_ h.ns_eq
        rw [Topology.ns, hdetached.vertices_eq, Store.remove_ns]
        rfl

theorem run (h : Cleared before es t t') (hquiet : watch.Quiet) (keys : List (Option Key)) :
    ∃ t'', t'.removeAllWithEdges watch keys = (t'', .ok ()) ∧
      Cleared (before ++ keys) es t t'' := by
  induction keys generalizing before t' with
  | nil =>
      rw [List.append_nil]
      exact ⟨t', rfl, h⟩
  | cons key keys ih =>
      obtain ⟨next, hnext, hstep⟩ := h.step hquiet key
      obtain ⟨last, hlast, hrun⟩ := ih hstep
      rw [List.append_assoc, List.singleton_append] at hrun
      refine ⟨last, ?_, hrun⟩
      rw [Topology.removeAllWithEdges, hnext]
      exact hlast

theorem anchored (h : Cleared keys es t t') {e : Edge} (he : .edge e ∈ t'.edges.entries)
    (hanchored : ∀ e ∈ es, e.AnchoredIn t.vertices) : e.AnchoredIn t'.vertices := by
  have hkept : ∀ key, t.vertices.contains key = true → some key ∉ keys →
      t'.vertices.contains key = true := by
    intro key hkey hnamed
    obtain ⟨entity, hmem, rfl⟩ := Store.contains_iff.mp hkey
    rw [Store.contains_iff, h.vertices_eq]
    exact ⟨entity, List.mem_filter.mpr ⟨hmem, decide_eq_true hnamed⟩, rfl⟩
  rw [h.edges_eq] at he
  obtain ⟨e, hmem, ⟨⟩⟩ := List.mem_map.mp he
  obtain ⟨hes, houtlasts⟩ := List.mem_filter.mp hmem
  obtain ⟨hsource, htarget⟩ := of_decide_eq_true houtlasts
  exact ⟨hkept _ (hanchored e hes).1 hsource, hkept _ (hanchored e hes).2 htarget⟩

/-- What remains depends neither on the order in which vertices are named nor on how
often they are. -/
theorem stores_eq {keys' : List (Option Key)} {t'' : Topology O} (h : Cleared keys es t t')
    (h' : Cleared keys' es t t'') (hsame : ∀ key, some key ∈ keys' ↔ some key ∈ keys) :
    t''.vertices = t'.vertices ∧ t''.edges = t'.edges ∧ t''.providers = t'.providers := by
  have hns : t''.ns = t'.ns := h'.ns_eq.trans h.ns_eq.symm
  refine ⟨Store.eq_of_entries_eq hns ?_, Store.eq_of_entries_eq ?_ ?_,
    h'.providers_eq.trans h.providers_eq.symm⟩
  · rw [h'.vertices_eq, h.vertices_eq]
    simp only [hsame]
  · rw [t''.edges_ns, t'.edges_ns]
    exact hns
  · rw [h'.edges_eq, h.edges_eq]
    apply congrArg
    apply List.filter_congr
    intro e _
    rw [decide_eq_decide, Edge.Outlasts, Edge.Outlasts, hsame, hsame]

end Topology.Cleared

/-! ## What is told of it -/

/-- The change that is told, and of which store. -/
def Tiding.change (tiding : Tiding) : StoreKind × ChangeEvent :=
  (tiding.kind, tiding.event)

/-- The changes of which listeners are told while an operation goes on. -/
def Operation.told (watch : Observation O) (op : Operation) (t : Topology O) :
    List (StoreKind × ChangeEvent) :=
  (op.perform watch.recorded t.recording).1.observers.told.map Tiding.change

/-- The event of a removal, of which there is none when nothing was removed. -/
def removalEvent (kind : StoreKind) (ns : String) (removed : List Entity) :
    List (StoreKind × ChangeEvent) :=
  if removed = [] then [] else [(kind, { ns, removed })]

/-- The events of removing a vertex with its edges after others have been removed: one
of the vertex, if it was still there, and one of the edges that were still attached. -/
def Store.cascadeEvents (vertices : Store) (es : List Edge) (before : List (Option Key))
    (vertex : Key) : List (StoreKind × ChangeEvent) :=
  let left := es.filter fun e => e.Outlasts before
  removalEvent .vertices vertices.ns
      (if some vertex ∈ before then none else vertices.find? vertex).toList ++
    removalEvent .edges vertices.ns ((left.filter fun e => e.connects vertex).map .edge)

/-- The events of removing vertices with their edges, one after the other. -/
def Store.removalEvents (vertices : Store) (es : List Edge) :
    List (Option Key) → List (Option Key) → List (StoreKind × ChangeEvent)
  | _, [] => []
  | before, key :: keys =>
    key.toList.flatMap (vertices.cascadeEvents es before) ++
      vertices.removalEvents es (before ++ [key]) keys

namespace Topology

open NetworkTopology.Observation

variable {es : List Edge} {before : List (Option Key)}

/-- Who keeps the record hears of every mutation that has an event. -/
theorem told_mutate (kind : StoreKind) (m : Store.Mutation) (t : Topology (List Tiding)) :
    (t.mutate recorder kind m).observers.map Tiding.change =
      t.observers.map Tiding.change ++
        (((t.store kind).event? m).toList.map fun event => (kind, event)) := by
  obtain ⟨committed, hcommitted, hmutate⟩ := t.exists_committed recorder kind m
  have hwarned : committed.observers = t.observers := by
    obtain ⟨warnings, hwarnings⟩ := hcommitted.warned
    rw [hwarnings]
    clear hwarnings
    induction warnings with
    | nil => rfl
    | cons warning warnings ih => exact ih
  rw [hmutate]
  cases (t.store kind).event? m with
  | none =>
      rw [hwarned]
      exact (List.append_nil _).symm
  | some event =>
      have hon : (recorder.on kind event committed).observers =
          t.observers ++ [{ kind, event, seen := committed.unobserved }] := by
        cases kind <;> exact congrArg (· ++ _) hwarned
      rw [hon, List.map_append]
      rfl

theorem told_remove (kind : StoreKind) (keys : List (Option Key)) (t : Topology (List Tiding)) :
    (t.mutate recorder kind (.remove keys)).observers.map Tiding.change =
      t.observers.map Tiding.change ++
        removalEvent kind t.ns ((t.store kind).remove keys).removed := by
  have hns : (t.store kind).ns = t.ns := by
    cases kind with
    | vertices => rfl
    | edges => exact t.edges_ns
  rw [told_mutate]
  apply congrArg
  simp only [Store.event?, Store.Removal.event?, Store.remove_ns, hns, removalEvent]
  by_cases hremoved : ((t.store kind).remove keys).removed = []
  · rw [if_pos hremoved, hremoved]
    rfl
  · have hsome : ((t.store kind).remove keys).removed.isEmpty = false := by simpa using hremoved
    rw [if_neg hremoved, hsome]
    rfl

namespace Cleared

variable {t t' : Topology (List Tiding)}

theorem told_step (h : Cleared before es t t') (key : Option Key) :
    (t'.removeWithEdges recorder key).1.observers.map Tiding.change =
      t'.observers.map Tiding.change ++
        key.toList.flatMap (t.vertices.cascadeEvents es before) := by
  cases key with
  | none => exact (List.append_nil _).symm
  | some vertex =>
      let bare := t'.removeVertices recorder [some vertex]
      have hedges : bare.edges = t'.edges :=
        recorder_quiet.store_mutate_of_ne .vertices .edges (by decide) (.remove [some vertex]) t'
      have hentries := (congrArg Store.entries hedges).trans h.edges_eq
      have hns : bare.ns = t.ns := by
        rw [Topology.ns, ← bare.edges_ns, hedges, t'.edges_ns]
        exact h.ns_eq
      have hvertex := told_remove .vertices [some vertex] t'
      rw [Topology.store, Store.removed_single, h.find?_eq, h.ns_eq] at hvertex
      -- The edges that go are those attached by now: the ones to vertices removed before are gone.
      let attached := (es.filter fun e => e.Outlasts before).filter fun e => e.connects vertex
      have hgone := told_remove .edges (attached.map fun e => some e.key) bare
      rw [Topology.store, Store.removed_attached hentries vertex, hns] at hgone
      rw [removeWithEdges_of_attached (Store.attached_of_edges hentries vertex)]
      refine hgone.trans ?_
      rw [Option.toList_some, List.flatMap_singleton, Store.cascadeEvents, ← List.append_assoc]
      exact congrArg (· ++ _) hvertex

theorem told_run (h : Cleared before es t t') (keys : List (Option Key)) :
    (t'.removeAllWithEdges recorder keys).1.observers.map Tiding.change =
      t'.observers.map Tiding.change ++ t.vertices.removalEvents es before keys := by
  induction keys generalizing before t' with
  | nil => exact (List.append_nil _).symm
  | cons key keys ih =>
      obtain ⟨next, hnext, hstep⟩ := h.step recorder_quiet key
      have htold := h.told_step key
      rw [hnext] at htold
      rw [Topology.removeAllWithEdges, hnext, Store.removalEvents, ← List.append_assoc, ← htold]
      exact ih hstep

end Cleared

end Topology

/-- Vertices that are removed with their edges under listeners that do not call back:
neither the order nor the repetition of the names matters to what remains, no edge is
left dangling that did not dangle before, and the events follow the names in turn. -/
theorem removal_in_closed_form {watch : Observation O} (hquiet : watch.Quiet) {t : Topology O}
    {es : List Edge} (hes : t.edges.entries = es.map .edge) (keys : List (Option Key)) :
    ∃ t', (Operation.removeWithEdges keys).perform watch t = (t', .ok .nothing) ∧
      Topology.Cleared keys es t t' ∧
      ((∀ e ∈ es, e.AnchoredIn t.vertices) →
        ∀ e, .edge e ∈ t'.edges.entries → e.AnchoredIn t'.vertices) ∧
      (∀ keys', (∀ key, some key ∈ keys' ↔ some key ∈ keys) →
        ∃ t'', (Operation.removeWithEdges keys').perform watch t = (t'', .ok .nothing) ∧
          t''.vertices = t'.vertices ∧ t''.edges = t'.edges ∧ t''.providers = t'.providers) ∧
      (Operation.removeWithEdges keys).told watch t = t.vertices.removalEvents es [] keys := by
  have hremove : ∀ keys, ∃ t', (Operation.removeWithEdges keys).perform watch t =
      (t', .ok .nothing) ∧ Topology.Cleared keys es t t' := by
    intro keys
    obtain ⟨t', hrun, hcleared⟩ := (Topology.Cleared.nil hes).run hquiet keys
    refine ⟨t', ?_, hcleared⟩
    rw [Operation.perform, hrun]
    rfl
  obtain ⟨t', hperform, hcleared⟩ := hremove keys
  refine ⟨t', hperform, hcleared, fun hanchored e he => hcleared.anchored he hanchored, ?_, ?_⟩
  · intro keys' hsame
    obtain ⟨t'', hperform', hcleared'⟩ := hremove keys'
    exact ⟨t'', hperform', hcleared.stores_eq hcleared' hsame⟩
  · -- What is told does not depend on who listens, so nobody does but who keeps the record.
    let silent : Topology (List Tiding) := t.recording.mapObservers Recorded.told
    have hmaps := hquiet.maps_recorder.perform (.removeWithEdges keys) t.recording
    have htold := congrArg (fun served => served.1.observers.map Tiding.change) hmaps
    exact htold.trans ((Topology.Cleared.nil (t := silent) hes).told_run keys)

/-- Of the edges between two vertices and the loop at one of them, only the loop outlasts
the other vertex. -/
theorem loop_outlasts_neighbour :
    ∃ (op : Operation) (t' : Topology Unit),
      op = .removeWithEdges [none, some ⟨"n", "a"⟩, some ⟨"m", "b"⟩, some ⟨"n", "a"⟩] ∧
      op.perform (.silent Unit) .tangled = (t', .ok .nothing) ∧
      t'.vertices.ids = ["b"] ∧ t'.edges.ids = ["z"] ∧
      (op.told (.silent Unit) .tangled).map
          (fun news => (news.1, news.2.removed.map fun entity => entity.key.id)) =
        [(.vertices, ["a"]), (.edges, ["x", "y"])] := by
  obtain ⟨t', hperform, hcleared, -, -, htold⟩ :=
    removal_in_closed_form (Observation.silent_quiet Unit) Topology.edges_tangled
      [none, some ⟨"n", "a"⟩, some ⟨"m", "b"⟩, some ⟨"n", "a"⟩]
  refine ⟨_, t', rfl, hperform, ?_, ?_, ?_⟩
  · rw [Store.ids, hcleared.vertices_eq]
    decide +kernel
  · rw [Store.ids, hcleared.edges_eq]
    decide +kernel
  · rw [htold]
    decide +kernel

end NetworkTopology
