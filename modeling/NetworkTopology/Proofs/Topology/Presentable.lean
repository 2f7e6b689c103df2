import NetworkTopology.Proofs.Graph.Mentions
import NetworkTopology.Proofs.Topology.Rebuild
import NetworkTopology.Proofs.Topology.Removal

/-!
# Topologies that can be presented

A topology can be presented when its stores hold what they are for and its edges end in
its namespace.  Removals keep this, and a rebuild leads to it.
-/

namespace NetworkTopology

variable {O : Type}

/-- All that is stored are vertices and edges, and the edges end in the namespace. -/
structure Topology.Presentable (vs : List Vertex) (es : List Edge) (t : Topology O) :
    Prop where
  vertices_eq : t.vertices.entries = vs.map .vertex
  edges_eq : t.edges.entries = es.map .edge
  ends_ns : ∀ e ∈ es, e.sourceKey.ns = t.ns ∧ e.targetKey.ns = t.ns

namespace Topology.Presentable

variable {vs : List Vertex} {es : List Edge} {t t' : Topology O}

/-- Only the content counts, whoever watches. -/
theorem of_content_eq {O' : Type} {other : Topology O'} (h : t.Presentable vs es)
    (hvertices : other.vertices = t.vertices) (hedges : other.edges = t.edges) :
    other.Presentable vs es := by
  have hns : other.ns = t.ns := congrArg Store.ns hvertices
  refine ⟨?_, ?_, ?_⟩
  · rw [hvertices, h.vertices_eq]
  · rw [hedges, h.edges_eq]
  · rw [hns]
    exact h.ends_ns

theorem find?_vertex (h : t.Presentable vs es) {v : Vertex} (hv : v ∈ vs) :
    t.vertices.find? ⟨t.ns, v.key.id⟩ = some (.vertex v) :=
  Store.find?_own (h.vertices_eq ▸ List.mem_map_of_mem hv)

theorem find?_edge (h : t.Presentable vs es) {e : Edge} (he : e ∈ es) :
    t.edges.find? ⟨t.ns, e.key.id⟩ = some (.edge e) := by
  have hmem : Entity.edge e ∈ t.edges.entries := by
    rw [h.edges_eq]
    exact List.mem_map_of_mem he
  have hfind := Store.find?_own hmem
  rwa [t.edges_ns] at hfind

theorem detached (h : t.Presentable vs es) {id : String}
    (hdetached : Detached ⟨t.ns, id⟩ es t t') :
    t'.Presentable (vs.filter fun v => !(v.key.id == id)) (Edge.apart ⟨t.ns, id⟩ es) := by
  have hns : t'.ns = t.ns := by
    rw [Topology.ns, hdetached.vertices_eq, Store.remove_ns]
    rfl
  refine ⟨?_, hdetached.entries_eq, ?_⟩
  · rw [hdetached.vertices_eq, Store.entries_remove, h.vertices_eq]
    apply filter_map_of
    intro v hv
    have hown : v.key.ns = t.ns :=
      t.vertices.ns_eq (.vertex v) (h.vertices_eq ▸ List.mem_map_of_mem hv)
    have hkey : v.key = ⟨t.ns, id⟩ ↔ v.key.id = id := by
      rw [← hown]
      exact ⟨fun heq => congrArg Key.id heq, fun heq => heq ▸ rfl⟩
    rw [Bool.eq_iff_iff]
    simp [Entity.key, hkey]
  · intro e he
    rw [hns]
    exact h.ends_ns e (List.mem_filter.mp he).1

end Topology.Presentable

/-! ## After a rebuild -/

theorem Vertex.isNodeId_of_readNodeId {value nodeId : Json}
    (h : readNodeId value = .ok nodeId) : nodeId.IsNodeId := by
  unfold readNodeId at h
  split at h
  · cases h
    exact .inl rfl
  · obtain ⟨n, -, h⟩ := Result.of_bind_ok h
    cases h
    exact .inr ⟨n, rfl⟩

/-- A rebuild leads to a topology that can be presented.  Its vertices have the node ids that are
read from the data of nodes, and its edges have no labels. -/
theorem Topology.Rebuilt.exists_presentable {p : Nat} {g : Graph} {vertices : List Vertex}
    {t t' : Topology O} (h : Rebuilt p vertices (g.toConnections t.ns) t t')
    (hvertices : Graph.toVertices t.ns g.nodes = .ok vertices) :
    ∃ vs es, t'.Presentable vs es ∧
      (∀ v ∈ vs, ∃ node ∈ g.nodes, Vertex.nodeIdOf node.2 = .ok v.nodeId) ∧
      ∀ e ∈ es, e.label = .null := by
  obtain ⟨become, rfl, hbecome⟩ := Graph.toVertices_eq_ok_iff.mp hvertices
  have hown : ∀ v ∈ g.nodes.map become, v.key.ns = t.ns := by
    intro v hv
    obtain ⟨node, hnode, rfl⟩ := List.mem_map.mp hv
    rw [Vertex.key_ofNode (hbecome node hnode)]
    rfl
  have hread : ∀ entity ∈ t'.vertices.entries, ∃ v : Vertex,
      (∃ node ∈ g.nodes, Vertex.nodeIdOf node.2 = .ok v.nodeId) ∧ .vertex v = entity := by
    intro entity hentity
    rw [h.vertices_entries hown] at hentity
    have hmem := (Replica.mem_putAll_nil_iff.mp hentity).mem
    rw [List.map_map] at hmem
    obtain ⟨node, hnode, rfl⟩ := List.mem_map.mp hmem
    exact ⟨become node, ⟨node, hnode, Vertex.nodeIdOf_of_ofNode (hbecome node hnode)⟩, rfl⟩
  obtain ⟨vs, hvs, hgood⟩ := exists_map_eq hread
  refine ⟨vs, _, ⟨hvs, h.entries_eq, ?_⟩, hgood, ?_⟩
  · intro e he
    obtain ⟨key, pair, hpair, rfl⟩ := Edge.exists_of_mem_row he
    obtain ⟨edge, -, rfl⟩ := List.mem_map.mp hpair
    rw [h.ns_eq]
    exact ⟨rfl, rfl⟩
  · intro e he
    obtain ⟨key, pair, -, rfl⟩ := Edge.exists_of_mem_row he
    rfl

end NetworkTopology
