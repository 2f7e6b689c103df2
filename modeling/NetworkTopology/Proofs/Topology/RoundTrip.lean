import NetworkTopology.Proofs.Graph.Adjacency
import NetworkTopology.Proofs.Graph.Export
import NetworkTopology.Proofs.Topology.Collected
import NetworkTopology.Proofs.Topology.Sound

/-!
# Exporting and loading again

A provider that is rebuilt from the graph of a topology has the same vertices, but for
the vertices they stand for, and joins the same pairs as often.  The edges come in the
order of the graph and under new ids, and their ends may have changed places; this
makes no difference to the adjacency matrix.
-/

namespace NetworkTopology

variable {O O' : Type}

open NetworkTopology.Topology

namespace Topology

variable {t : Topology O} {vertices : List Vertex} {edges : List Edge}

theorem toGraph_of_entries (hvertices : t.vertices.entries = vertices.map .vertex)
    (hedges : t.edges.entries = edges.map .edge) :
    t.toGraph = .ok (.ofTopology t.ns vertices edges) := by
  rw [toGraph, hvertices, Entity.toVertices_map_vertex, hedges, Entity.toEdges_map_edge]
  rfl

theorem adjacency_of_entries (hedges : t.edges.entries = edges.map .edge) :
    t.adjacency = .ok (AdjacencyMatrix.make t.vertices.ids edges) := by
  rw [adjacency, hedges, Entity.toEdges_map_edge]
  rfl

theorem ids_of_entries (hvertices : t.vertices.entries = vertices.map .vertex) :
    t.vertices.ids = vertices.map fun v => v.key.id := by
  rw [Store.ids, hvertices, List.map_map]
  rfl

theorem ns_of_entries (hvertices : t.vertices.entries = vertices.map .vertex) :
    ∀ v ∈ vertices, v.key.ns = t.ns := by
  intro v hv
  refine t.vertices.ns_eq (.vertex v) ?_
  rw [hvertices]
  exact List.mem_map_of_mem hv

theorem of_contains_vertex (hvertices : t.vertices.entries = vertices.map .vertex) {key : Key}
    (h : t.vertices.contains key = true) :
    key.ns = t.ns ∧ key.id ∈ vertices.map fun v => v.key.id := by
  obtain ⟨entity, hmem, rfl⟩ := Store.contains_iff.mp h
  have hns := t.vertices.ns_eq entity hmem
  rw [hvertices] at hmem
  obtain ⟨v, hv, rfl⟩ := List.mem_map.mp hmem
  exact ⟨hns, List.mem_map.mpr ⟨v, hv, rfl⟩⟩

theorem endIds_of_anchored (hvertices : t.vertices.entries = vertices.map .vertex)
    (hanchored : ∀ e ∈ edges, e.AnchoredIn t.vertices) :
    ∀ e ∈ edges, e.sourceKey.id ∈ vertices.map (fun v => v.key.id) ∧
      e.targetKey.id ∈ vertices.map (fun v => v.key.id) := by
  intro e he
  obtain ⟨hsource, htarget⟩ := hanchored e he
  exact ⟨(of_contains_vertex hvertices hsource).2, (of_contains_vertex hvertices htarget).2⟩

/-- The graph of a topology connects the pairs that its edges join, whichever comes
first. -/
theorem toConnections_export_perm (hvertices : t.vertices.entries = vertices.map .vertex)
    (hedges : t.edges.entries = edges.map .edge)
    (hanchored : ∀ e ∈ edges, e.AnchoredIn t.vertices) :
    (((Graph.ofTopology t.ns vertices edges).toConnections t.ns).map fun pair =>
      s(pair.1, pair.2)).Perm (edges.map Edge.ends) := by
  have hsym : ∀ source target : Key, s(source, target) = s(target, source) :=
    fun _ _ => Sym2.eq_swap
  have hlinks := Graph.ends_ofTopology_perm
    (Graph.onEnds_attachEnds (fun _ => hsym) t.ns) t.ns vertices (Store.nodup_ids_of_edges hedges)
  have hattached : edges.map (fun e => Graph.attachEnds t.ns (fun source target =>
      s(source, target)) (.str e.sourceKey.id) (.str e.targetKey.id)) =
      edges.map Edge.ends := by
    apply List.map_congr_left
    intro e he
    obtain ⟨hsource, htarget⟩ := hanchored e he
    have hkey : ∀ key : Key, t.vertices.contains key = true →
        ({ ns := t.ns, id := key.id } : Key) = key := by
      intro key hkey
      rw [← (of_contains_vertex hvertices hkey).1]
    change s(({ ns := t.ns, id := e.sourceKey.id } : Key), { ns := t.ns, id := e.targetKey.id }) =
      s(e.sourceKey, e.targetKey)
    rw [hkey e.sourceKey hsource, hkey e.targetKey htarget]
  rw [hattached] at hlinks
  have hconnected := (Graph.collects_ofTopology t.ns vertices edges).toConnections_perm
    (Graph.built_ofTopology t.ns vertices edges) (fun _ => hsym) t.ns
  exact hconnected.trans hlinks

end Topology

/-- A provider of the same namespace that is rebuilt from the graph of a topology has
the same vertices, joins the same pairs as often, and has the same adjacency matrix.
The number of edges is one that the matrix can count to. -/
theorem refresh_from_export {t : Topology O} {vertices : List Vertex} {edges : List Edge}
    (hvertices : t.vertices.entries = vertices.map .vertex)
    (hedges : t.edges.entries = edges.map .edge) (hplain : ∀ v ∈ vertices, v.Plain)
    (hanchored : ∀ e ∈ edges, e.AnchoredIn t.vertices) (hfew : edges.length < 2 ^ 24)
    {watch : Observation O'} (hquiet : watch.Quiet) {p : Nat} {other : Topology O'}
    (hp : p < other.providers.length) (hns : other.ns = t.ns) :
    ∃ (g : Graph) (other' : Topology O') (edges' : List Edge), t.toGraph = .ok g ∧
      other.refresh watch p (.ok g) = (other', .ok ()) ∧
      other'.vertices.entries = vertices.map (fun v => .vertex { v with group := none }) ∧
      other'.edges.entries = edges'.map .edge ∧ edges'.length = edges.length ∧
      (edges'.map Edge.ends).Perm (edges.map Edge.ends) ∧
      other'.adjacency = t.adjacency := by
  have hpairs := toConnections_export_perm hvertices hedges hanchored
  have hids : (vertices.map fun v => v.key.id).Nodup :=
    ids_of_entries hvertices ▸ t.vertices.ids_nodup
  have hnames := Graph.eraseDups_mentions hids (endIds_of_anchored hvertices hanchored)
  have hnumber : (Graph.ofTopology t.ns vertices edges).edges.length = edges.length := by
    have hlength := hpairs.length_eq
    rw [List.length_map, List.length_map, Graph.length_toConnections] at hlength
    exact hlength
  obtain ⟨other', edges', hrefresh, hentries, hedges', hends⟩ := hquiet.exists_collected hp
    (Graph.collects_ofTopology t.ns vertices edges)
    (fun _ hmention _ => Graph.isNodeId_of_mentioned hplain hmention)
    (hnumber ▸ hfew.trans_le (IntegerLiteral.two_pow_le_bound (by decide)))
  rw [hns] at hentries hends
  have hsame : (edges'.map Edge.ends).Perm (edges.map Edge.ends) := by
    rw [← hends, List.map_map] at hpairs
    exact hpairs
  have hvertices' : other'.vertices.entries =
      (vertices.map fun v => { v with group := none }).map .vertex := by
    rw [hentries, hnames, ← Graph.map_mentioned edges hids (ns_of_entries hvertices) hplain]
    simp only [List.map_map]
    rfl
  have hids' : other'.vertices.ids = t.vertices.ids := by
    rw [ids_of_entries hvertices', ids_of_entries hvertices, List.map_map]
    rfl
  refine ⟨_, other', edges', toGraph_of_entries hvertices hedges, hrefresh, ?_, hedges', ?_,
    hsame, ?_⟩
  · rw [hvertices', List.map_map]
    rfl
  · have hlength := hsame.length_eq
    rw [List.length_map, List.length_map] at hlength
    exact hlength
  · rw [adjacency_of_entries hedges, adjacency_of_entries hedges', hids',
      AdjacencyMatrix.make_perm hsame]

/-- Two vertices, one of which stands for the other. -/
def Vertex.nested : List Vertex :=
  [{ key := ⟨"n", "a"⟩, group := some { children := [some ⟨"n", "b"⟩] } },
    { key := ⟨"n", "b"⟩, label := .str "B", tooltip := .str "core", nodeId := .int 7 }]

/-- Edges between two vertices both ways, and a loop. -/
def Edge.tangled : List Edge :=
  [.between ⟨"n", "x"⟩ ⟨"n", "b"⟩ ⟨"n", "a"⟩, .between ⟨"n", "y"⟩ ⟨"n", "a"⟩ ⟨"n", "b"⟩,
    .between ⟨"n", "z"⟩ ⟨"n", "b"⟩ ⟨"n", "b"⟩]

def Topology.tangled : Topology Unit :=
  (provided.addVertices (.silent Unit) (Vertex.nested.map fun v => some (.vertex v))).addEdges
    (.silent Unit) (Edge.tangled.map fun e => some (.edge e))

theorem Topology.vertices_tangled : tangled.vertices.entries = Vertex.nested.map .vertex := by
  decide +kernel

theorem Topology.edges_tangled : tangled.edges.entries = Edge.tangled.map .edge := by
  decide +kernel

theorem Edge.anchored_tangled : ∀ e ∈ Edge.tangled, e.AnchoredIn Topology.tangled.vertices := by
  have hall : Edge.tangled.all (fun e => Topology.tangled.vertices.contains e.sourceKey &&
      Topology.tangled.vertices.contains e.targetKey) = true := by decide +kernel
  intro e he
  exact Bool.and_eq_true_iff.mp (List.all_eq_true.mp hall e he)

/-- Parallel edges and the loop are all there again. -/
theorem tangled_from_export :
    ∃ (g : Graph) (other' : Topology Unit) (edges' : List Edge), tangled.toGraph = .ok g ∧
      provided.refresh (.silent Unit) 0 (.ok g) = (other', .ok ()) ∧
      other'.edges.entries = edges'.map .edge ∧
      (edges'.map Edge.ends).Perm (Edge.tangled.map Edge.ends) ∧
      other'.adjacency = .ok { ids := ["a", "b"], rows := [[0, 2], [2, 1]] } := by
  have hplain : ∀ v ∈ Vertex.nested, v.Plain := by
    intro v hv
    rcases List.mem_cons.mp hv with rfl | hv
    · exact ⟨.inl rfl, .inl rfl, .inl rfl⟩
    · rw [List.mem_singleton.mp hv]
      exact ⟨.inr ⟨7, rfl⟩, .inr ⟨"core", by decide, rfl⟩, .inl rfl⟩
  have hprovided : 0 < provided.providers.length := by decide
  obtain ⟨g, other', edges', hgraph, hrefresh, -, hentries, -, hends, hadjacency⟩ :=
    refresh_from_export vertices_tangled edges_tangled hplain Edge.anchored_tangled (by decide)
      (Observation.silent_quiet Unit) hprovided rfl
  refine ⟨g, other', edges', hgraph, hrefresh, hentries, hends, ?_⟩
  have hids : tangled.vertices.ids = ["a", "b"] := by decide +kernel
  have hsorted : sortIds ["a", "b"] = ["a", "b"] := List.mergeSort_of_pairwise (by decide)
  rw [hadjacency, adjacency_of_entries edges_tangled, hids, AdjacencyMatrix.make, hsorted]
  decide +kernel

end NetworkTopology
