import NetworkTopology.Proofs.Graph.Counting
import NetworkTopology.Proofs.Topology.RoundTrip

/-!
# The number of edges at a vertex

The edges attached to a vertex are told by the store, for one vertex or for several at
once.  Where every end of an edge is a stored vertex, the adjacency matrix and the
exported graph show the same number of them.
-/

namespace NetworkTopology

variable {O : Type}

/-! ## Edges at a node of the exported graph -/

/-- Is a node of this name at one of the ends? -/
def GraphEdge.touches (e : GraphEdge) (id : NodeId) : Bool :=
  decide (e.source.Same id) || decide (e.target.Same id)

namespace Graph

theorem onEnds_touches (directed : Bool) (id : NodeId) :
    OnEnds directed fun source target => decide (source.Same id) || decide (target.Same id) := by
  constructor
  · intro source source' target target' hsource htarget
    have hsource' : source.Same id ↔ source'.Same id := ⟨hsource.symm.trans, hsource.trans⟩
    have htarget' : target.Same id ↔ target'.Same id := ⟨htarget.symm.trans, htarget.trans⟩
    simp only [hsource', htarget']
  · intro _ source target
    exact Bool.or_comm _ _

/-- The exported graph shows each edge at the nodes of its ends, and a loop only once. -/
theorem countP_touches_ofTopology {edges : List Edge} (ns : String) (vertices : List Vertex)
    (hids : (edges.map fun e => e.key.id).Nodup) (id : String) :
    ((ofTopology ns vertices edges).edges.countP fun e => e.touches (.str id)) =
      edges.countP fun e => id ∈ e.endIds := by
  have hpair := onEnds_touches false (.str id)
  have hbuilt := built_ofTopology ns vertices edges
  have hshown := edges_perm hbuilt.closed hbuilt.distinct (onEnds_touches _ (.str id))
  have hperm := hshown.trans (ends_ofTopology_perm hpair ns vertices hids)
  have hcount := hperm.countP_eq fun touched => touched
  rw [List.countP_map, List.countP_map] at hcount
  refine hcount.trans (List.countP_congr ?_)
  intro e _
  simp only [Function.comp_apply, Bool.or_eq_true, decide_eq_true_eq, same_str_iff,
    Edge.mem_endIds]

end Graph

/-! ## Attached edges -/

namespace Store

variable {s : Store} {es : List Edge}

/-- A table of several vertices has a row for each that is named. -/
theorem exists_attachedToEach (hes : s.entries = es.map .edge) (named : List (Option Key)) :
    ∃ rows, s.attachedToEach named = .ok rows ∧ (rows.map Prod.fst).Nodup ∧
      (∀ key, key ∈ rows.map Prod.fst ↔ some key ∈ named) ∧
      ∀ key, some key ∈ named → (key, es.filter fun e => e.connects key) ∈ rows := by
  let keys := (named.filterMap id).eraseDups
  let row (key : Key) : Key × List Edge := (key, es.filter fun e => e.connects key)
  have hkeys : ∀ key, key ∈ keys ↔ some key ∈ named := by
    intro key
    rw [List.mem_eraseDups, List.mem_filterMap]
    simp
  have hfirst : (keys.map row).map Prod.fst = keys := by
    rw [List.map_map]
    exact List.map_id keys
  refine ⟨keys.map row, attachedToEach_of_edges hes named, ?_, ?_, ?_⟩
  · rw [hfirst]
    exact nodup_eraseDups _
  · rw [hfirst]
    exact hkeys
  · intro key hnamed
    exact List.mem_map_of_mem ((hkeys key).mpr hnamed)

end Store

theorem Edge.mem_endIds_of_anchored {s : Store} {e : Edge} (h : e.AnchoredIn s) {key : Key}
    (hns : key.ns = s.ns) : key.id ∈ e.endIds ↔ e.connects key = true := by
  have hend : ∀ other : Key, s.contains other = true → (other.id = key.id ↔ other = key) := by
    intro other hother
    have hsame : other.ns = key.ns := (Store.contains_iff_containsId.mp hother).1.trans hns.symm
    constructor
    · intro hid
      rw [Key.mk.injEq]
      exact ⟨hsame, hid⟩
    · exact congrArg Key.id
  rw [mem_endIds, connects_iff, hend _ h.1, hend _ h.2]

namespace Topology

variable {t : Topology O} {vertices : List Vertex} {edges : List Edge}

/-- The row of a stored vertex sums up to the number of edges attached to it. -/
theorem row_sum_of_anchored (hedges : t.edges.entries = edges.map .edge)
    (hanchored : ∀ e ∈ edges, e.AnchoredIn t.vertices) :
    ∃ m, t.adjacency = .ok m ∧ m.ids.Perm t.vertices.ids ∧
      ∀ (i : Nat) (id : String), m.ids[i]? = some id →
        m.rows[i]?.map List.sum = some (edges.countP fun e => id ∈ e.endIds) := by
  have hids := t.vertices.ids_nodup
  have hperm := sortIds_perm t.vertices.ids
  refine ⟨_, adjacency_of_entries hedges, hperm, ?_⟩
  intro i id hid
  rw [AdjacencyMatrix.make_eq hids] at hid ⊢
  have hends : ∀ e ∈ edges, e.sourceKey.id ∈ sortIds t.vertices.ids ∧
      e.targetKey.id ∈ sortIds t.vertices.ids := by
    intro e he
    obtain ⟨hsource, htarget⟩ := hanchored e he
    rw [hperm.mem_iff, hperm.mem_iff, ← Store.containsId_iff, ← Store.containsId_iff]
    exact ⟨(Store.contains_iff_containsId.mp hsource).2,
      (Store.contains_iff_containsId.mp htarget).2⟩
  have hsum := AdjacencyMatrix.sum_row (hperm.nodup_iff.mpr hids) hends id
  simp only [AdjacencyMatrix.table, List.getElem?_map, hid, Option.map_some, hsum]

/-- The edges at a stored vertex are counted alike by the store, which tells those
attached to the vertex, by a table of several vertices, by the row of the adjacency
matrix, and by the exported graph. -/
theorem attached_counts_agree (hvertices : t.vertices.entries = vertices.map .vertex)
    (hedges : t.edges.entries = edges.map .edge)
    (hanchored : ∀ e ∈ edges, e.AnchoredIn t.vertices) {v : Vertex} (hv : v ∈ vertices) :
    ∃ (attached : List Edge) (m : AdjacencyMatrix) (g : Graph),
      t.edges.attached (some v.key) = .ok attached ∧ (attached.map Edge.key).Nodup ∧
      (∀ named, ∃ rows, t.edges.attachedToEach named = .ok rows ∧
        (rows.map Prod.fst).Nodup ∧ (∀ key, key ∈ rows.map Prod.fst ↔ some key ∈ named) ∧
        (some v.key ∈ named → (v.key, attached) ∈ rows)) ∧
      t.adjacency = .ok m ∧ v.key.id ∈ m.ids ∧
      (∀ i : Nat, m.ids[i]? = some v.key.id →
        m.rows[i]?.map List.sum = some attached.length) ∧
      t.toGraph = .ok g ∧
      (g.edges.countP fun e => e.touches (.str v.key.id)) = attached.length := by
  have hstored : Entity.vertex v ∈ t.vertices.entries := by
    rw [hvertices]
    exact List.mem_map_of_mem hv
  have hcount : (edges.countP fun e => v.key.id ∈ e.endIds) =
      (edges.filter fun e => e.connects v.key).length := by
    rw [← List.countP_eq_length_filter]
    apply List.countP_congr
    intro e he
    rw [decide_eq_true_eq]
    exact Edge.mem_endIds_of_anchored (hanchored e he) (t.vertices.ns_eq _ hstored)
  obtain ⟨m, hadjacency, hperm, hsums⟩ := row_sum_of_anchored hedges hanchored
  refine ⟨edges.filter fun e => e.connects v.key, m, _, Store.attached_of_edges hedges v.key,
    (Store.nodup_keys_of_edges hedges).sublist (List.filter_sublist.map _), ?_, hadjacency, ?_, ?_,
    toGraph_of_entries hvertices hedges, ?_⟩
  · intro named
    obtain ⟨rows, hrows, hnodup, hkeys, hmem⟩ := Store.exists_attachedToEach hedges named
    exact ⟨rows, hrows, hnodup, hkeys, hmem v.key⟩
  · rw [hperm.mem_iff]
    exact List.mem_map.mpr ⟨_, hstored, rfl⟩
  · intro i hi
    rw [hsums i _ hi, hcount]
  · rw [Graph.countP_touches_ofTopology t.ns vertices (Store.nodup_ids_of_edges hedges), hcount]

/-- At the vertex with the loop there are three edges, however they are counted. -/
theorem three_edges_in_tangled :
    ∃ (attached : List Edge) (rows : List (Key × List Edge)) (m : AdjacencyMatrix) (g : Graph),
      attached.length = 3 ∧ tangled.edges.attached (some ⟨"n", "b"⟩) = .ok attached ∧
      tangled.edges.attachedToEach [some ⟨"n", "b"⟩, none, some ⟨"n", "b"⟩] = .ok rows ∧
      (⟨"n", "b"⟩, attached) ∈ rows ∧ tangled.adjacency = .ok m ∧
      (∀ i : Nat, m.ids[i]? = some "b" → m.rows[i]?.map List.sum = some 3) ∧
      tangled.toGraph = .ok g ∧ (g.edges.countP fun e => e.touches (.str "b")) = 3 := by
  obtain ⟨attached, m, g, hattached, -, heach, hadjacency, -, hsum, hgraph, htouches⟩ :=
    attached_counts_agree vertices_tangled edges_tangled Edge.anchored_tangled
      (List.mem_cons_of_mem _ List.mem_cons_self)
  have hlength : attached.length = 3 := by
    rw [Store.attached_of_edges edges_tangled] at hattached
    rw [← Except.ok.inj hattached]
    decide +kernel
  obtain ⟨rows, hrows, -, -, hmem⟩ := heach [some ⟨"n", "b"⟩, none, some ⟨"n", "b"⟩]
  rw [hlength] at hsum htouches
  exact ⟨attached, rows, m, g, hlength, hattached, hrows, hmem List.mem_cons_self, hadjacency,
    hsum, hgraph, htouches⟩

end Topology

end NetworkTopology
