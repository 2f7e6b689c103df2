import NetworkTopology.Proofs.Result
import NetworkTopology.Proofs.Store.Content
import NetworkTopology.Proofs.Topology.Quiet

/-!
# Removing vertices with their edges

The edges that go with a vertex are those attached to it, all others stay in
their order, and the id generators take no notice.
-/

namespace NetworkTopology

variable {O : Type}

/-! ## The edges that stay -/

/-- The edges of which neither end is a given vertex. -/
def Edge.apart (vertex : Key) (es : List Edge) : List Edge :=
  es.filter fun e => !e.connects vertex

theorem Edge.mem_apart_iff {vertex : Key} {es : List Edge} {e : Edge} :
    e ∈ Edge.apart vertex es ↔ e ∈ es ∧ e.sourceKey ≠ vertex ∧ e.targetKey ≠ vertex := by
  rw [apart, List.mem_filter, Bool.not_eq_true', ← Bool.not_eq_true, connects_iff, not_or]

namespace Store

variable {s : Store} {es : List Edge}

theorem attached_of_edges (hes : s.entries = es.map .edge) (vertex : Key) :
    s.attached (some vertex) = .ok (es.filter fun e => e.connects vertex) := by
  rw [attached, hes, Entity.toEdges_map_edge]
  rfl

theorem attachedToEach_of_edges (hes : s.entries = es.map .edge) (named : List (Option Key)) :
    s.attachedToEach named =
      .ok ((named.filterMap id).eraseDups.map fun key =>
        (key, es.filter fun e => e.connects key)) := by
  apply Result.mapM_of_forall
  intro key _
  rw [attached_of_edges hes]
  rfl

theorem nodup_keys_of_edges (hes : s.entries = es.map .edge) : (es.map Edge.key).Nodup := by
  have hnodup := s.nodup
  rw [hes, List.map_map] at hnodup
  exact hnodup

theorem nodup_ids_of_edges (hes : s.entries = es.map .edge) :
    (es.map fun e => e.key.id).Nodup := by
  have hnodup := s.ids_nodup
  rw [ids, hes, List.map_map] at hnodup
  exact hnodup

theorem edge_eq_of_key_eq (hes : s.entries = es.map .edge) {e e' : Edge} (he : e ∈ es)
    (he' : e' ∈ es) (hkey : e.key = e'.key) : e = e' := by
  have hfind : s.find? e'.key = some (.edge e) := by
    rw [find?_eq_some_iff, hes]
    exact ⟨List.mem_map_of_mem he, hkey⟩
  have hfind' : s.find? e'.key = some (.edge e') := by
    rw [find?_eq_some_iff, hes]
    exact ⟨List.mem_map_of_mem he', rfl⟩
  rw [hfind] at hfind'
  cases hfind'
  rfl

/-- Without the attached edges, those that are apart remain. -/
theorem entries_remove_attached (hes : s.entries = es.map .edge) (vertex : Key) :
    (s.remove ((es.filter fun e => e.connects vertex).map fun e => some e.key)).store.entries =
      (Edge.apart vertex es).map .edge := by
  rw [entries_remove, hes]
  apply filter_map_of
  intro e he
  have hnamed : ((es.filter fun e => e.connects vertex).map fun e => some e.key).contains
      (some e.key) = e.connects vertex := by
    rw [Bool.eq_iff_iff, List.contains_iff_mem, List.mem_map]
    constructor
    · rintro ⟨other, hother, hkey⟩
      obtain ⟨hmem, hconnects⟩ := List.mem_filter.mp hother
      rw [edge_eq_of_key_eq hes he hmem (Option.some.inj hkey).symm]
      exact hconnects
    · intro hconnects
      exact ⟨e, List.mem_filter.mpr ⟨he, hconnects⟩, rfl⟩
  exact congrArg not hnamed

end Store

/-! ## Removal under observers that do not call back -/

/-- From one topology to another, a vertex and the edges attached to it were
removed, and nothing else has changed but the observers. -/
structure Topology.Detached (vertex : Key) (es : List Edge) (t t' : Topology O) : Prop where
  vertices_eq : t'.vertices = (t.vertices.remove [some vertex]).store
  entries_eq : t'.edges.entries = (Edge.apart vertex es).map .edge
  providers_eq : t'.providers = t.providers

theorem Topology.removeWithEdges_of_attached {watch : Observation O} {t : Topology O}
    {vertex : Key} {edges : List Edge}
    (h : (t.removeVertices watch [some vertex]).edges.attached (some vertex) = .ok edges) :
    t.removeWithEdges watch (some vertex) =
      ((t.removeVertices watch [some vertex]).removeEdges watch
        (edges.map fun e => some e.key), .ok ()) := by
  simp only [Topology.removeWithEdges, h]

theorem Observation.Quiet.removeWithEdges {watch : Observation O} (h : watch.Quiet)
    {t : Topology O} {es : List Edge} (hes : t.edges.entries = es.map .edge) (vertex : Key) :
    ∃ t', t.removeWithEdges watch (some vertex) = (t', .ok ()) ∧
      Topology.Detached vertex es t t' := by
  let bare := t.removeVertices watch [some vertex]
  let keys := (es.filter fun e => e.connects vertex).map fun e => some e.key
  have hvertices : bare.vertices = (t.vertices.remove [some vertex]).store :=
    h.store_mutate .vertices (.remove [some vertex]) t
  have hedges : bare.edges = t.edges :=
    h.store_mutate_of_ne .vertices .edges (by decide) (.remove [some vertex]) t
  have hproviders : bare.providers = t.providers :=
    h.providers_mutate .vertices (.remove [some vertex]) t
  have hattached : bare.edges.attached (some vertex) =
      .ok (es.filter fun e => e.connects vertex) := by
    rw [hedges]
    exact Store.attached_of_edges hes vertex
  refine ⟨bare.removeEdges watch keys, ?_, ?_, ?_, ?_⟩
  · exact Topology.removeWithEdges_of_attached hattached
  · have hremove : (bare.removeEdges watch keys).vertices = bare.vertices :=
      h.store_mutate_of_ne .edges .vertices (by decide) (.remove keys) bare
    exact hremove.trans hvertices
  · have hremove : (bare.removeEdges watch keys).edges = (bare.edges.remove keys).store :=
      h.store_mutate .edges (.remove keys) bare
    rw [hremove, hedges]
    exact Store.entries_remove_attached hes vertex
  · have hremove : (bare.removeEdges watch keys).providers = bare.providers :=
      h.providers_mutate .edges (.remove keys) bare
    exact hremove.trans hproviders

end NetworkTopology
