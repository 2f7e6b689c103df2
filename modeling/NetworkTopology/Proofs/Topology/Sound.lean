import NetworkTopology.Proofs.Graph.Closed
import NetworkTopology.Proofs.Topology.Refresh
import NetworkTopology.Proofs.Topology.Removal

/-!
# Sound topologies

In a sound topology no edge dangles and every edge bears a number below the counter
of a provider.  Connecting stored vertices, removing a vertex with its edges and
rebuilding from a closed graph all lead from one sound topology to another.
-/

namespace NetworkTopology

variable {O : Type}

/-- Both ends of an edge are stored. -/
def Edge.AnchoredIn (s : Store) (e : Edge) : Prop :=
  s.contains e.sourceKey = true ∧ s.contains e.targetKey = true

/-- A topology that a provider keeps in order: among the edges there is nothing but
edges, their ends are stored, and they are numbered by the provider. -/
structure Topology.Sound (p : Nat) (t : Topology O) : Prop where
  provided : p < t.providers.length
  anchored : ∃ es : List Edge, t.edges.entries = es.map .edge ∧
    ∀ e ∈ es, e.AnchoredIn t.vertices
  numbered : t.Numbered p

namespace Topology

variable {p : Nat} {t t' : Topology O}

theorem sound_of_no_edges (hp : p < t.providers.length) (h : t.edges.entries = []) :
    t.Sound p := by
  refine ⟨hp, ⟨[], h, fun _ he => absurd he List.not_mem_nil⟩, ?_⟩
  rw [Numbered, Store.ids, h]
  exact IdGenerator.Covers.nil _

theorem Sound.joined (h : t.Sound p) {pairs : List (Key × Key)}
    (hpairs : ∀ pair ∈ pairs, t.vertices.contains pair.1 = true ∧
      t.vertices.contains pair.2 = true)
    (hjoined : Joined p pairs t t') (hnumbered : t'.Numbered p) : t'.Sound p := by
  obtain ⟨es, hes, hanchored⟩ := h.anchored
  refine ⟨?_, ⟨es ++ Edge.row t.ns (t.edgeIds p).stem (t.edgeIds p).upcoming pairs, ?_, ?_⟩,
    hnumbered⟩
  · rw [hjoined.length_eq]
    exact h.provided
  · rw [hjoined.entries_eq, hes, List.map_append]
  · intro e he
    rw [Edge.AnchoredIn, hjoined.vertices_eq]
    rcases List.mem_append.mp he with hold | hnew
    · exact hanchored e hold
    · obtain ⟨key, pair, hpair, rfl⟩ := Edge.exists_of_mem_row hnew
      exact hpairs pair hpair

theorem Sound.detached (h : t.Sound p) {vertex : Key} {es : List Edge}
    (hes : t.edges.entries = es.map .edge)
    (hdetached : Detached vertex es t t') : t'.Sound p := by
  have hanchored : ∀ e ∈ es, e.AnchoredIn t.vertices := by
    obtain ⟨es', hes', hanchored⟩ := h.anchored
    intro e he
    have hmem : Entity.edge e ∈ es'.map .edge := by
      rw [← hes', hes]
      exact List.mem_map_of_mem he
    obtain ⟨e', he', heq⟩ := List.mem_map.mp hmem
    cases heq
    exact hanchored e he'
  have hkept : ∀ key, t.vertices.contains key = true → key ≠ vertex →
      t'.vertices.contains key = true := by
    intro key hkey hne
    obtain ⟨entity, hmem, rfl⟩ := Store.contains_iff.mp hkey
    rw [hdetached.vertices_eq, Store.contains_iff, Store.entries_remove]
    refine ⟨entity, List.mem_filter.mpr ⟨hmem, ?_⟩, rfl⟩
    simpa using hne
  refine ⟨?_, ⟨Edge.apart vertex es, hdetached.entries_eq, ?_⟩, ?_⟩
  · rw [hdetached.providers_eq]
    exact h.provided
  · intro e he
    obtain ⟨hmem, happart⟩ := List.mem_filter.mp he
    obtain ⟨hsource, htarget⟩ := hanchored e hmem
    have hends : ¬ (e.sourceKey = vertex ∨ e.targetKey = vertex) := by
      rw [← Edge.connects_iff]
      simpa using happart
    exact ⟨hkept _ hsource fun heq => hends (.inl heq),
      hkept _ htarget fun heq => hends (.inr heq)⟩
  · rw [Numbered, edgeIds_of_providers_eq hdetached.providers_eq]
    refine IdGenerator.Covers.subset h.numbered ?_
    intro id hid
    obtain ⟨entity, hentity, rfl⟩ := List.mem_map.mp hid
    rw [hdetached.entries_eq] at hentity
    obtain ⟨e, he, rfl⟩ := List.mem_map.mp hentity
    refine List.mem_map.mpr ⟨.edge e, ?_, rfl⟩
    rw [hes]
    exact List.mem_map_of_mem (List.mem_filter.mp he).1

theorem sound_of_rebuilt (hp : p < t.providers.length) {g : Graph} (hg : g.Closed)
    {vertices : List Vertex} (hvertices : Graph.toVertices t.ns g.nodes = .ok vertices)
    (h : Rebuilt p vertices (g.toConnections t.ns) t t') : t'.Sound p := by
  have hkeys := (Graph.of_toVertices_ok hvertices).1
  have hstored : ∀ key ∈ g.nodes.map (fun node => node.1.keyIn t.ns),
      t'.vertices.contains key = true := by
    intro key hkey
    have hns : key.ns = t.ns := by
      obtain ⟨node, -, rfl⟩ := List.mem_map.mp hkey
      rfl
    rw [← hkeys] at hkey
    obtain ⟨v, hv, rfl⟩ := List.mem_map.mp hkey
    rw [h.vertices_eq, Store.contains_add]
    exact .inr ⟨.vertex v, List.mem_map_of_mem hv, hns, rfl⟩
  refine ⟨?_, ⟨_, h.entries_eq, ?_⟩, h.numbered⟩
  · rw [h.providers_eq, List.length_set]
    exact hp
  · intro e he
    obtain ⟨key, pair, hpair, rfl⟩ := Edge.exists_of_mem_row he
    obtain ⟨hsource, htarget⟩ := hg.mem_toConnections hpair
    exact ⟨hstored _ hsource, hstored _ htarget⟩

end Topology

end NetworkTopology
