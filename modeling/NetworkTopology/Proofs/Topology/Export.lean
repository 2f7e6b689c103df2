import NetworkTopology.Proofs.Topology.RoundTrip

/-!
# What a graph shows of a topology

The graph of a topology shows all that is stored.  Its nodes are the vertices in their
order and then, bare, the ends that are not stored, each where an edge first names it.
The ids of the edges are different, so each edge stays an edge of its own with its own
data, also next to parallel ones, at a loop, or with an end that is not stored.
-/

namespace NetworkTopology

variable {O : Type}

open NetworkTopology.Topology

namespace Topology

variable {t : Topology O} {vertices : List Vertex} {edges : List Edge}

/-- The ids of the ends that are no vertices are those of the ends that are not stored. -/
theorem map_id_unstored (hvertices : t.vertices.entries = vertices.map .vertex)
    (hends : ∀ e ∈ edges, e.sourceKey.ns = t.ns ∧ e.targetKey.ns = t.ns) :
    ((edges.flatMap fun e => [e.sourceKey.id, e.targetKey.id]).filter fun id =>
      decide (id ∉ vertices.map fun v => v.key.id)) =
    ((edges.flatMap fun e => [e.sourceKey, e.targetKey]).filter fun key =>
      !t.vertices.contains key).map Key.id := by
  have hids : (edges.flatMap fun e => [e.sourceKey.id, e.targetKey.id]) =
      (edges.flatMap fun e => [e.sourceKey, e.targetKey]).map Key.id := by
    rw [List.map_flatMap]
    rfl
  rw [hids]
  apply filter_map_of
  intro key hkey
  obtain ⟨e, he, hmem⟩ := List.mem_flatMap.mp hkey
  have hns : key.ns = t.vertices.ns := by
    rcases List.mem_pair.mp hmem with rfl | rfl
    · exact (hends e he).1
    · exact (hends e he).2
  have hstored : t.vertices.contains key = true ↔ key.id ∈ vertices.map fun v => v.key.id := by
    rw [Store.contains_iff_containsId, Store.containsId_iff, ids_of_entries hvertices]
    exact and_iff_right hns
  rw [Bool.eq_iff_iff, decide_eq_true_iff, Bool.not_eq_true', Bool.eq_false_iff, Ne, hstored]

end Topology

/-- The graph of a topology has the stored vertices with what they show, and then the
ends that are not stored; and its edges are the stored ones, each under its id. -/
theorem export_loses_nothing {t : Topology O} {vertices : List Vertex} {edges : List Edge}
    (hvertices : t.vertices.entries = vertices.map .vertex)
    (hedges : t.edges.entries = edges.map .edge)
    (hends : ∀ e ∈ edges, e.sourceKey.ns = t.ns ∧ e.targetKey.ns = t.ns) :
    ∃ g : Graph, t.toGraph = .ok g ∧ g.directed = false ∧ g.multigraph = true ∧
      g.nodes = (vertices.map fun v => (.str v.key.id, [("label", v.label),
          ("tooltip", v.tooltip), ("ip_address", v.ipAddress), ("node_id", v.nodeId),
          ("collapsible", .bool v.isCollapsible)])) ++
        (((edges.flatMap fun e => [e.sourceKey, e.targetKey]).filter fun key =>
          !t.vertices.contains key).map Key.id).eraseDups.map (fun id => (.str id, [])) ∧
      (g.edges.map GraphEdge.key).Nodup ∧
      (g.edges.map fun e => (s(e.source, e.target), e.key, e.data)).Perm
        (edges.map fun e => (s(.str e.sourceKey.id, .str e.targetKey.id), some (.str e.key.id),
          [("label", e.label), ("source_connector", .str e.source.key.id),
            ("target_connector", .str e.target.key.id)])) := by
  have hids : (vertices.map fun v => v.key.id).Nodup :=
    ids_of_entries hvertices ▸ t.vertices.ids_nodup
  have hedgeIds := Store.nodup_ids_of_edges hedges
  have hperm := Graph.edges_ofTopology_perm t.ns vertices hedgeIds
  refine ⟨_, toGraph_of_entries hvertices hedges, Graph.directed_ofTopology t.ns vertices edges,
    Graph.multigraph_ofTopology t.ns vertices edges, ?_, ?_, hperm⟩
  · rw [Graph.nodes_ofTopology t.ns edges hids, map_id_unstored hvertices hends]
    rfl
  · have hkeys := hperm.map fun shown => shown.2.1
    rw [List.map_map, List.map_map] at hkeys
    refine hkeys.nodup_iff.mpr ?_
    have hinjective : Function.Injective fun id : String => some (NodeId.str id) := by
      intro id other h
      exact NodeId.str.inj (Option.some.inj h)
    have hnames := hedgeIds.map hinjective
    rw [List.map_map] at hnames
    exact hnames

/-- Parallel edges, a loop, and edges to vertices that are not stored. -/
def Edge.frayed : List Edge :=
  [.between ⟨"n", "x"⟩ ⟨"n", "d"⟩ ⟨"n", "a"⟩, .between ⟨"n", "y"⟩ ⟨"n", "b"⟩ ⟨"n", "b"⟩,
    .between ⟨"n", "z"⟩ ⟨"n", "a"⟩ ⟨"n", "d"⟩, .between ⟨"n", "w"⟩ ⟨"n", "d"⟩ ⟨"n", "c"⟩]

def Topology.frayed : Topology Unit :=
  (provided.addVertices (.silent Unit) (Vertex.nested.map fun v => some (.vertex v))).addEdges
    (.silent Unit) (Edge.frayed.map fun e => some (.edge e))

theorem frayed_loses_nothing :
    ∃ g : Graph, frayed.toGraph = .ok g ∧
      g.nodes.map Prod.fst = [.str "a", .str "b", .str "d", .str "c"] ∧
      g.nodes.drop 2 = [(.str "d", []), (.str "c", [])] ∧
      (g.edges.map GraphEdge.key).Perm
        [some (.str "x"), some (.str "y"), some (.str "z"), some (.str "w")] := by
  have hvertices : frayed.vertices.entries = Vertex.nested.map .vertex := by decide +kernel
  have hedges : frayed.edges.entries = Edge.frayed.map .edge := by decide +kernel
  have hends : ∀ e ∈ Edge.frayed, e.sourceKey.ns = frayed.ns ∧ e.targetKey.ns = frayed.ns := by
    decide +kernel
  obtain ⟨g, hgraph, -, -, hnodes, -, hperm⟩ := export_loses_nothing hvertices hedges hends
  have hunstored : (((Edge.frayed.flatMap fun e => [e.sourceKey, e.targetKey]).filter fun key =>
      !frayed.vertices.contains key).map Key.id).eraseDups = ["d", "c"] := by decide +kernel
  rw [hunstored] at hnodes
  have hkeys := hperm.map fun shown => shown.2.1
  rw [List.map_map] at hkeys
  refine ⟨g, hgraph, ?_, ?_, hkeys⟩
  · rw [hnodes]
    rfl
  · rw [hnodes]
    rfl

end NetworkTopology
