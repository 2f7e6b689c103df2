import Mathlib.Data.Sym.Sym2
import NetworkTopology.Proofs.Graph.Joining
import NetworkTopology.Proofs.Graph.Mentions

/-!
# Graphs of topologies

The graph that is made of a topology mentions the vertices with their fields and then,
edge by edge, their ends.  As the edges have different ids, each of them is an edge of
the graph.
-/

namespace NetworkTopology

variable {β : Type}

/-- A value to show: nothing, or a text that is not empty. -/
def Json.IsCaption (value : Json) : Prop :=
  value = .null ∨ ∃ text, text ≠ "" ∧ value = .str text

theorem Json.orElse_null_of_isCaption {value : Json} (h : value.IsCaption) :
    value.orElse .null = value := by
  rcases h with rfl | ⟨text, htext, rfl⟩
  · rfl
  · have htruthy : (Json.str text).isTruthy = true := bne_iff_ne.mpr htext
    rw [Json.orElse, if_pos htruthy]

/-- A vertex whose node id is an integer or missing, and whose tooltip and address are
texts or missing. -/
structure Vertex.Plain (v : Vertex) : Prop where
  nodeId : v.nodeId.IsNodeId
  tooltip : v.tooltip.IsCaption
  ipAddress : v.ipAddress.IsCaption

namespace Graph

/-- What a graph is told of vertices. -/
def vertexMentions (vertices : List Vertex) : List (String × Fields) :=
  vertices.map fun v => (v.key.id, vertexFields v)

def endIds (edges : List Edge) : List (String × String) :=
  edges.map fun e => (e.sourceKey.id, e.targetKey.id)

theorem distinct_vertexFields (v : Vertex) : (vertexFields v).Distinct := by
  simp [Fields.Distinct, vertexFields]

section Building

variable {g : Graph}

/-- Edges under ids of their own are as many edges more, each with its id for a key. -/
theorem views_addEdges_perm {view : NodeId → NodeId → Option NodeId × Fields → β}
    (hview : OnEnds g.directed view) (hmultigraph : g.multigraph = true) {edges : List Edge}
    (hids : (edges.map fun e => e.key.id).Nodup)
    (hnew : ∀ name ∈ edgeKeys g.links, ∀ e ∈ edges, ¬ name.Same (.str e.key.id)) :
    ((edges.foldl (fun g e => g.addEdge (.str e.sourceKey.id) (.str e.targetKey.id)
      (some (.str e.key.id)) (edgeFields e)) g).links.flatMap (Link.views true view)).Perm
      ((edges.map fun e => view (.str e.sourceKey.id) (.str e.targetKey.id)
        (some (.str e.key.id), edgeFields e)) ++ g.links.flatMap (Link.views true view)) := by
  let Ready (g : Graph) (edges : List Edge) : Prop :=
    OnEnds g.directed view ∧ g.multigraph = true ∧ (edges.map fun e => e.key.id).Nodup ∧
      ∀ name ∈ edgeKeys g.links, ∀ e ∈ edges, ¬ name.Same (.str e.key.id)
  refine perm_foldl (fun g => g.links.flatMap (Link.views true view)) Ready ?_
    ⟨hview, hmultigraph, hids, hnew⟩
  rintro g e edges ⟨hview, hmultigraph, hids, hnew⟩
  rw [List.map_cons, List.nodup_cons] at hids
  obtain ⟨hid, hids⟩ := hids
  refine ⟨⟨?_, (multigraph_addEdge ..).trans hmultigraph, hids, ?_⟩, ?_⟩
  · rw [directed_addEdge]
    exact hview
  · intro name hname other hother hsame
    rw [links_addEdge, hmultigraph] at hname
    rcases mem_edgeKeys_addToLinks hname with rfl | hold
    · rw [same_str_iff] at hsame
      exact hid (hsame ▸ List.mem_map_of_mem hother)
    · exact hnew name hold other (List.mem_cons_of_mem e hother) hsame
  · have hfresh : ∀ given, some (NodeId.str e.key.id) = some given →
        ∀ name ∈ edgeKeys g.links, ¬ name.Same given := by
      rintro given ⟨⟩ name hname
      exact hnew name hname e List.mem_cons_self
    obtain ⟨name, hname, hperm⟩ := exists_views_addEdge_perm hview hmultigraph hfresh
    rw [hname _ rfl] at hperm
    exact hperm

/-! ### Nodes -/

theorem nodes_addNode_of_new {id : NodeId} (hnew : g.hasNode id = false) (fields : Fields) :
    (g.addNode id fields).nodes = g.nodes ++ [(id, fields)] := by
  rw [addNode, hnew]
  rfl

/-- A mention of a node that is there says nothing new of it. -/
theorem nodes_addNode_bare {id : NodeId} (hnode : g.hasNode id = true) :
    (g.addNode id []).nodes = g.nodes := by
  rw [addNode, if_pos hnode]
  have hsame : ∀ node ∈ g.nodes,
      (if node.1.Same id then (node.1, Fields.merge node.2 []) else node) = node := by
    intro node _
    exact ite_self node
  exact (List.map_congr_left hsame).trans (List.map_id _)

/-- Vertices under ids of their own are as many nodes more. -/
theorem nodes_addVertices {vertices : List Vertex} (hids : (vertices.map fun v => v.key.id).Nodup)
    (hnew : ∀ v ∈ vertices, g.hasNode (.str v.key.id) = false) :
    (vertices.foldl (fun g v => g.addNode (.str v.key.id) (vertexFields v)) g).nodes =
      g.nodes ++ vertices.map fun v => (.str v.key.id, vertexFields v) := by
  induction vertices generalizing g with
  | nil => rw [List.map_nil, List.append_nil, List.foldl_nil]
  | cons v vertices ih =>
      rw [List.map_cons, List.nodup_cons] at hids
      obtain ⟨hid, hids⟩ := hids
      have hnodes := nodes_addNode_of_new (hnew v List.mem_cons_self) (vertexFields v)
      have hrest : ∀ other ∈ vertices,
          (g.addNode (.str v.key.id) (vertexFields v)).hasNode (.str other.key.id) = false := by
        intro other hother
        have hold := hnew other (List.mem_cons_of_mem v hother)
        have hapart : ¬ (NodeId.str v.key.id).Same (.str other.key.id) := by
          intro hsame
          exact hid (same_str_iff.mp hsame ▸ List.mem_map_of_mem hother)
        rw [hasNode] at hold ⊢
        rw [hnodes, List.any_append, hold, List.any_cons, decide_eq_false hapart]
        rfl
      rw [List.foldl_cons, ih hids hrest, hnodes, List.append_assoc]
      rfl

/-- A graph has the nodes of another one and then those that texts bring in, each where
it is first mentioned and without data. -/
def BringsIn (g g' : Graph) (texts : List String) : Prop :=
  g'.nodes = g.nodes ++
    (texts.filter fun text => !g.hasNode (.str text)).eraseDups.map fun text => (.str text, [])

namespace BringsIn

variable {g' : Graph} {texts : List String}

theorem refl (g : Graph) : BringsIn g g [] := (List.append_nil _).symm

theorem hasNode_iff (h : BringsIn g g' texts) {text : String} :
    g'.hasNode (.str text) = true ↔ g.hasNode (.str text) = true ∨ text ∈ texts := by
  have hnodes : g'.nodes = _ := h
  rw [Graph.hasNode, hnodes, List.any_append, Bool.or_eq_true]
  apply or_congr_right'
  intro hnew
  have hfalse : g.hasNode (.str text) = false := Bool.eq_false_iff.mpr hnew
  rw [List.any_map, List.any_eq_true]
  constructor
  · rintro ⟨other, hother, hsame⟩
    obtain rfl := same_str_iff.mp (of_decide_eq_true hsame)
    exact (List.mem_filter.mp (List.mem_eraseDups.mp hother)).1
  · intro htext
    refine ⟨text, List.mem_eraseDups.mpr (List.mem_filter.mpr ⟨htext, ?_⟩), ?_⟩
    · rw [hfalse]
      rfl
    · exact decide_eq_true (NodeId.Same.refl _)

/-- One more mention brings in a node unless it is there. -/
theorem addNode (h : BringsIn g g' texts) (text : String) :
    BringsIn g (g'.addNode (.str text) []) (texts ++ [text]) := by
  have hnodes : g'.nodes = _ := h
  rw [BringsIn, List.filter_append, List.filter_singleton]
  by_cases hold : g.hasNode (.str text) = true
  · rw [nodes_addNode_bare (h.hasNode_iff.mpr (.inl hold)), hold, Bool.not_true, hnodes]
    rw [cond_false, List.append_nil]
  · rw [Bool.eq_false_iff.mpr hold, Bool.not_false, cond_true, eraseDups_concat]
    have hmem : text ∈ texts.filter (fun text => !g.hasNode (.str text)) ↔ text ∈ texts := by
      rw [List.mem_filter, Bool.eq_false_iff.mpr hold]
      exact and_iff_left rfl
    by_cases htext : text ∈ texts
    · rw [nodes_addNode_bare (h.hasNode_iff.mpr (.inr htext)), if_pos (hmem.mpr htext), hnodes]
    · have hnew : g'.hasNode (.str text) = false := by
        rw [Bool.eq_false_iff, Ne, h.hasNode_iff]
        exact not_or.mpr ⟨hold, htext⟩
      rw [nodes_addNode_of_new hnew, if_neg (mt hmem.mp htext), hnodes, List.map_append,
        List.map_singleton, List.append_assoc]

/-- Edges bring in their ends, the source before the target. -/
theorem addEdges (h : BringsIn g g' texts) (edges : List Edge) :
    BringsIn g (edges.foldl (fun g e => g.addEdge (.str e.sourceKey.id) (.str e.targetKey.id)
      (some (.str e.key.id)) (edgeFields e)) g')
      (texts ++ edges.flatMap fun e => [e.sourceKey.id, e.targetKey.id]) := by
  induction edges generalizing g' texts with
  | nil =>
      rw [List.flatMap_nil, List.append_nil]
      exact h
  | cons e edges ih =>
      have hends : BringsIn g (g'.addEdge (.str e.sourceKey.id) (.str e.targetKey.id)
          (some (.str e.key.id)) (edgeFields e)) (texts ++ [e.sourceKey.id] ++ [e.targetKey.id]) :=
        (h.addNode e.sourceKey.id).addNode e.targetKey.id
      have hrest := ih hends
      rw [List.append_assoc, List.append_assoc] at hrest
      exact hrest

end BringsIn

end Building

variable {ns : String} {vertices : List Vertex} {edges : List Edge}

theorem collects_ofTopology (ns : String) (vertices : List Vertex) (edges : List Edge) :
    (ofTopology ns vertices edges).Collects
      (vertexMentions vertices ++ endMentions (endIds edges)) := by
  have hbare := collects_nil
    (g := { multigraph := true, attributes := .obj [("namespace", .str ns)] }) rfl
  have hdistinct : ∀ mention ∈ vertexMentions vertices, Fields.Distinct mention.2 := by
    intro mention hmention
    obtain ⟨v, -, rfl⟩ := List.mem_map.mp hmention
    exact distinct_vertexFields v
  have hnoded := hbare.addNodes hdistinct
  rw [vertexMentions, List.foldl_map] at hnoded
  exact hnoded.addEdges edges (fun e => (e.sourceKey.id, e.targetKey.id))
    (fun e => some (.str e.key.id)) edgeFields

/-- Vertices are described as they are, but for the vertices they stand for. -/
theorem mentioned_of_mem (hids : (vertices.map fun v => v.key.id).Nodup) {v : Vertex}
    (hv : v ∈ vertices) (hns : v.key.ns = ns) (hplain : v.Plain) :
    Vertex.mentioned ns (vertexMentions vertices ++ endMentions (endIds edges)) v.key.id =
      { v with group := none } := by
  have hlast : ∀ name, lastMentioned (vertexMentions vertices ++ endMentions (endIds edges))
      v.key.id name = Fields.get? (vertexFields v) name := by
    intro name
    have hnodup : ((vertexMentions vertices).map Prod.fst).Nodup := by
      rw [vertexMentions, List.map_map]
      exact hids
    have hmention : (v.key.id, vertexFields v) ∈ vertexMentions vertices :=
      List.mem_map_of_mem hv
    rw [lastMentioned_append_bare fun _ => bare_of_mem_endMentions]
    exact lastMentioned_of_nodup hnodup hmention name
  have hkey : ({ ns, id := v.key.id } : Key) = v.key := by rw [← hns]
  have htooltip : v.tooltip.orElse .null = v.tooltip := Json.orElse_null_of_isCaption hplain.tooltip
  have haddress : v.ipAddress.orElse .null = v.ipAddress :=
    Json.orElse_null_of_isCaption hplain.ipAddress
  simp only [Vertex.mentioned, hlast, hkey]
  simp [vertexFields, Fields.get?, htooltip, haddress]

/-- The texts that are mentioned are the ids of the vertices, if the edges join none
but these. -/
theorem eraseDups_mentions (hids : (vertices.map fun v => v.key.id).Nodup)
    (hends : ∀ e ∈ edges, e.sourceKey.id ∈ vertices.map (fun v => v.key.id) ∧
      e.targetKey.id ∈ vertices.map (fun v => v.key.id)) :
    ((vertexMentions vertices ++ endMentions (endIds edges)).map Prod.fst).eraseDups =
      vertices.map fun v => v.key.id := by
  have hnames : (vertexMentions vertices).map Prod.fst = vertices.map fun v => v.key.id := by
    rw [vertexMentions, List.map_map]
    rfl
  rw [List.map_append, hnames, map_fst_endMentions, eraseDups_append_of_subset,
    eraseDups_of_nodup hids]
  intro id hid
  obtain ⟨pair, hpair, hmem⟩ := List.mem_flatMap.mp hid
  obtain ⟨e, he, rfl⟩ := List.mem_map.mp hpair
  simp only [List.mem_cons, List.not_mem_nil, or_false] at hmem
  rcases hmem with rfl | rfl
  · exact (hends e he).1
  · exact (hends e he).2

/-- The mentions describe the vertices, in their order. -/
theorem map_mentioned (edges : List Edge)
    (hids : (vertices.map fun v => v.key.id).Nodup)
    (hns : ∀ v ∈ vertices, v.key.ns = ns) (hplain : ∀ v ∈ vertices, v.Plain) :
    (vertices.map fun v => v.key.id).map
      (Vertex.mentioned ns (vertexMentions vertices ++ endMentions (endIds edges))) =
        vertices.map fun v => { v with group := none } := by
  rw [List.map_map]
  apply List.map_congr_left
  intro v hv
  exact mentioned_of_mem hids hv (hns v hv) (hplain v hv)

theorem isNodeId_of_mentioned (hplain : ∀ v ∈ vertices, v.Plain) {mention : String × Fields}
    (hmention : mention ∈ vertexMentions vertices ++ endMentions (endIds edges)) {value : Json}
    (hvalue : Fields.get? mention.2 "node_id" = some value) : value.IsNodeId := by
  rcases List.mem_append.mp hmention with hvertex | hend
  · obtain ⟨v, hv, rfl⟩ := List.mem_map.mp hvertex
    obtain rfl : v.nodeId = value := Option.some.inj hvalue
    exact (hplain v hv).nodeId
  · rw [bare_of_mem_endMentions hend] at hvalue
    cases hvalue

/-- The nodes are the vertices in their order, and then the ends of edges that are no
vertices. -/
theorem nodes_ofTopology (ns : String) (edges : List Edge)
    (hids : (vertices.map fun v => v.key.id).Nodup) :
    (ofTopology ns vertices edges).nodes =
      (vertices.map fun v => (.str v.key.id, vertexFields v)) ++
        ((edges.flatMap fun e => [e.sourceKey.id, e.targetKey.id]).filter fun id =>
          decide (id ∉ vertices.map fun v => v.key.id)).eraseDups.map fun id => (.str id, []) := by
  let bare : Graph := { multigraph := true, attributes := .obj [("namespace", .str ns)] }
  let noded := vertices.foldl (fun g v => g.addNode (.str v.key.id) (vertexFields v)) bare
  have hnodes : noded.nodes = vertices.map fun v => (.str v.key.id, vertexFields v) :=
    nodes_addVertices hids fun _ _ => rfl
  have hnode : ∀ id, (!noded.hasNode (.str id)) = decide (id ∉ vertices.map fun v => v.key.id) := by
    intro id
    rw [hasNode, hnodes, List.any_map, Bool.eq_iff_iff]
    simp [same_str_iff]
  have hbrings : (ofTopology ns vertices edges).nodes = _ := (BringsIn.refl noded).addEdges edges
  rw [hbrings, hnodes]
  simp only [hnode, List.nil_append]

/-- Vertices bring in nodes and change nothing else. -/
theorem addVertices_keeps (part : Graph → β)
    (hnode : ∀ (g : Graph) (id : NodeId) (fields : Fields), part (g.addNode id fields) = part g)
    (vertices : List Vertex) (g : Graph) :
    part (vertices.foldl (fun g v => g.addNode (.str v.key.id) (vertexFields v)) g) = part g :=
  foldl_keeps part (fun g v => hnode g (.str v.key.id) (vertexFields v)) vertices g

theorem directed_ofTopology (ns : String) (vertices : List Vertex) (edges : List Edge) :
    (ofTopology ns vertices edges).directed = false :=
  (foldl_keeps directed (fun g (_ : Edge) => directed_addEdge g _ _ _ _) edges _).trans
    (addVertices_keeps directed directed_addNode vertices _)

theorem multigraph_ofTopology (ns : String) (vertices : List Vertex) (edges : List Edge) :
    (ofTopology ns vertices edges).multigraph = true :=
  (foldl_keeps multigraph (fun g (_ : Edge) => multigraph_addEdge g _ _ _ _) edges _).trans
    (addVertices_keeps multigraph multigraph_addNode vertices _)

/-- The links hold the edges, each of them once. -/
theorem views_ofTopology_perm {view : NodeId → NodeId → Option NodeId × Fields → β}
    (hview : OnEnds false view) (ns : String) (vertices : List Vertex)
    (hids : (edges.map fun e => e.key.id).Nodup) :
    ((ofTopology ns vertices edges).links.flatMap (Link.views true view)).Perm
      (edges.map fun e => view (.str e.sourceKey.id) (.str e.targetKey.id)
        (some (.str e.key.id), edgeFields e)) := by
  let bare : Graph := { multigraph := true, attributes := .obj [("namespace", .str ns)] }
  have hdirected := addVertices_keeps directed directed_addNode vertices bare
  have hmultigraph := addVertices_keeps multigraph multigraph_addNode vertices bare
  have hlinks := addVertices_keeps links links_addNode vertices bare
  have hperm := views_addEdges_perm (by rw [hdirected]; exact hview) hmultigraph hids (by
    intro name hname
    rw [hlinks] at hname
    cases hname)
  rw [hlinks, List.flatMap_nil, List.append_nil] at hperm
  exact hperm

theorem ends_ofTopology_perm {pair : NodeId → NodeId → β} (hpair : OnEnds false pair)
    (ns : String) (vertices : List Vertex) (hids : (edges.map fun e => e.key.id).Nodup) :
    ((ofTopology ns vertices edges).links.flatMap (Link.ends pair)).Perm
      (edges.map fun e => pair (.str e.sourceKey.id) (.str e.targetKey.id)) := by
  have hperm := views_ofTopology_perm (hpair.const _) ns vertices hids
  rw [Link.views_const] at hperm
  exact hperm

theorem eq_str_of_identity {id : NodeId} {text : String} (h : id.identity = .str text) :
    id = .str text := by
  cases id with
  | str value => exact h
  | float value =>
      rw [NodeId.identity] at h
      split at h <;> cases h
  | _ => cases h

/-- Each edge is enumerated once, with its id for a key, its own data, and the ids of its
ends in one order or the other. -/
theorem edges_ofTopology_perm (ns : String) (vertices : List Vertex)
    (hids : (edges.map fun e => e.key.id).Nodup) :
    ((ofTopology ns vertices edges).edges.map fun e => (s(e.source, e.target), e.key, e.data)).Perm
      (edges.map fun e => (s(.str e.sourceKey.id, .str e.targetKey.id),
        some (.str e.key.id), edgeFields e)) := by
  let view (source target : NodeId) (shown : Option NodeId × Fields) :=
    (s(source.identity, target.identity), shown)
  have hview : OnEnds false view := by
    constructor
    · intro source source' target target' hsource htarget
      have hsource : source.identity = source'.identity := hsource
      have htarget : target.identity = target'.identity := htarget
      simp only [view, hsource, htarget]
    · intro _ source target
      simp only [view, Sym2.eq_swap]
  have hbuilt := built_ofTopology ns vertices edges
  have hperm := views_perm hbuilt.closed hbuilt.distinct
    ((directed_ofTopology ns vertices edges).symm ▸ hview)
  rw [multigraph_ofTopology] at hperm
  have hedges := hperm.trans (views_ofTopology_perm hview ns vertices hids)
  -- The names of the ends are those of texts, so they are texts.
  have hraw : (ofTopology ns vertices edges).edges.map
      (fun e => (s(e.source, e.target), e.key, e.data)) =
      (ofTopology ns vertices edges).edges.map fun e => view e.source e.target (e.key, e.data) := by
    apply List.map_congr_left
    intro e he
    obtain ⟨edge, -, hedge⟩ := List.mem_map.mp (hedges.mem_iff.mp (List.mem_map_of_mem he))
    have hends : s(NodeId.str edge.sourceKey.id, NodeId.str edge.targetKey.id) =
        s(e.source.identity, e.target.identity) := congrArg Prod.fst hedge
    rcases Sym2.eq_iff.mp hends with ⟨hsource, htarget⟩ | ⟨hsource, htarget⟩
    · rw [eq_str_of_identity hsource.symm, eq_str_of_identity htarget.symm]
      rfl
    · rw [eq_str_of_identity hsource.symm, eq_str_of_identity htarget.symm]
      rfl
  rw [hraw]
  exact hedges

end Graph

end NetworkTopology
