import NetworkTopology.Proofs.Graph.Built
import NetworkTopology.Proofs.Graph.Conversion

/-!
# Graphs whose links join their nodes

A link of a closed graph has nodes at both ends.  Adding nodes and edges keeps a
graph closed, so graphs are closed as they are built, and the edges of a closed graph
connect vertices that its nodes become.
-/

namespace NetworkTopology.Graph

/-- Both ends of every link are nodes. -/
def Closed (g : Graph) : Prop :=
  ∀ link ∈ g.links, g.hasNode link.source = true ∧ g.hasNode link.target = true

theorem closed_of_no_links {g : Graph} (h : g.links = []) : g.Closed := by
  intro link hlink
  rw [h] at hlink
  cases hlink

theorem hasNode_iff {g : Graph} {id : NodeId} :
    g.hasNode id = true ↔ ∃ node ∈ g.nodes, node.1.Same id := by
  simp [hasNode]

/-! ## Building graphs -/

section Building

variable {g : Graph} {id other : NodeId} {fields : Fields}

theorem links_addNode (g : Graph) (id : NodeId) (fields : Fields) :
    (g.addNode id fields).links = g.links := by
  unfold addNode
  split <;> rfl

/-- A node that was there stays, under its spelling. -/
theorem hasNode_addNode_of_hasNode (h : g.hasNode other = true) :
    (g.addNode id fields).hasNode other = true := by
  obtain ⟨node, hmem, hsame⟩ := hasNode_iff.mp h
  rw [hasNode_iff]
  unfold addNode
  split
  · refine ⟨_, List.mem_map_of_mem hmem, ?_⟩
    split <;> exact hsame
  · exact ⟨node, List.mem_append_left _ hmem, hsame⟩

theorem hasNode_addNode_self : (g.addNode id fields).hasNode id = true := by
  by_cases h : g.hasNode id = true
  · exact hasNode_addNode_of_hasNode h
  · rw [hasNode_iff, addNode, if_neg h]
    exact ⟨(id, fields), List.mem_append_right _ List.mem_cons_self, NodeId.Same.refl id⟩

theorem Closed.addNode (h : g.Closed) : (g.addNode id fields).Closed := by
  intro link hlink
  rw [links_addNode] at hlink
  obtain ⟨hsource, htarget⟩ := h link hlink
  exact ⟨hasNode_addNode_of_hasNode hsource, hasNode_addNode_of_hasNode htarget⟩

/-- A new edge makes at most one link, between its own ends. -/
theorem ends_of_mem_addToLinks {directed multigraph : Bool} {source target : NodeId}
    {key : Option NodeId} {data : Fields} {links : List Link} {link : Link}
    (h : link ∈ addToLinks directed multigraph source target key data links) :
    (link.source = source ∧ link.target = target) ∨
      ∃ old ∈ links, link.source = old.source ∧ link.target = old.target := by
  induction links with
  | nil =>
      rw [addToLinks, List.mem_singleton] at h
      rw [h]
      exact .inl ⟨rfl, rfl⟩
  | cons first links ih =>
      rw [addToLinks] at h
      split at h
      · rcases List.mem_cons.mp h with rfl | hmem
        · exact .inr ⟨first, List.mem_cons_self, rfl, rfl⟩
        · exact .inr ⟨link, List.mem_cons_of_mem first hmem, rfl, rfl⟩
      · rcases List.mem_cons.mp h with rfl | hmem
        · exact .inr ⟨link, List.mem_cons_self, rfl, rfl⟩
        · rcases ih hmem with hnew | ⟨old, hold, hends⟩
          · exact .inl hnew
          · exact .inr ⟨old, List.mem_cons_of_mem first hold, hends⟩

theorem Closed.addEdge (h : g.Closed) (source target : NodeId) (key : Option NodeId)
    (data : Fields) : (g.addEdge source target key data).Closed := by
  have hnoded : ((g.addNode source []).addNode target []).Closed := h.addNode.addNode
  have hsource : ((g.addNode source []).addNode target []).hasNode source = true :=
    hasNode_addNode_of_hasNode hasNode_addNode_self
  have htarget : ((g.addNode source []).addNode target []).hasNode target = true :=
    hasNode_addNode_self
  intro link hlink
  change ((g.addNode source []).addNode target []).hasNode link.source = true ∧
    ((g.addNode source []).addNode target []).hasNode link.target = true
  rcases ends_of_mem_addToLinks hlink with ⟨hs, ht⟩ | ⟨old, hold, hs, ht⟩
  · rw [hs, ht]
    exact ⟨hsource, htarget⟩
  · rw [hs, ht]
    exact hnoded old hold

end Building

theorem Built.closed {g : Graph} (h : g.Built) : g.Closed := by
  induction h with
  | bare nodes links => exact closed_of_no_links links
  | addNode _ id fields ih => exact ih.addNode
  | addEdge _ source target key data ih => exact ih.addEdge source target key data

variable {g : Graph}

/-! ## Edges and the vertices that they connect -/

/-- A name that a node has is spelled as the node is. -/
theorem exists_spelling_of_hasNode {id : NodeId} (h : g.hasNode id = true) :
    ∃ node ∈ g.nodes, node.1.Same id ∧ g.spelling id = node.1 := by
  obtain ⟨node, hmem, hsame⟩ := hasNode_iff.mp h
  unfold spelling
  cases hfind : g.nodes.find? fun node => decide (node.1.Same id) with
  | none =>
      have hnot := List.find?_eq_none.mp hfind node hmem
      exact absurd (decide_eq_true hsame) hnot
  | some found =>
      have hfound := List.find?_some hfind
      exact ⟨found, List.mem_of_find?_eq_some hfind, of_decide_eq_true hfound, rfl⟩

theorem exists_link_of_mem_neighbours {id other : NodeId} {parallel : List (NodeId × Fields)}
    (h : (other, parallel) ∈ g.neighbours id) :
    ∃ link ∈ g.links, other = link.target ∨ other = link.source := by
  obtain ⟨link, hlink, hends⟩ := List.mem_filterMap.mp h
  refine ⟨link, hlink, ?_⟩
  split at hends
  · cases hends
    exact .inl rfl
  · split at hends
    · cases hends
      exact .inr rfl
    · cases hends

/-- An edge starts at one of the nodes that are gone through, and ends where a link
does. -/
theorem ends_of_mem_edgesOf {seen : List NodeId} {nodes : List (NodeId × Fields)}
    {e : GraphEdge} (h : e ∈ g.edgesOf seen nodes) :
    (∃ node ∈ nodes, e.source = node.1) ∧
      ∃ link ∈ g.links, e.target = link.target ∨ e.target = link.source := by
  induction nodes generalizing seen with
  | nil => cases h
  | cons node nodes ih =>
      rw [edgesOf] at h
      rcases List.mem_append.mp h with hhere | hrest
      · obtain ⟨neighbour, hneighbour, hedge⟩ := List.mem_flatMap.mp hhere
        obtain ⟨parallel, -, rfl⟩ := List.mem_map.mp hedge
        have hlink := exists_link_of_mem_neighbours (List.mem_filter.mp hneighbour).1
        exact ⟨⟨node, List.mem_cons_self, rfl⟩, hlink⟩
      · obtain ⟨⟨other, hmem, hsource⟩, hlink⟩ := ih hrest
        exact ⟨⟨other, List.mem_cons_of_mem node hmem, hsource⟩, hlink⟩

theorem Closed.hasNode_ends (h : g.Closed) {e : GraphEdge} (he : e ∈ g.edges) :
    g.hasNode e.source = true ∧ g.hasNode e.target = true := by
  obtain ⟨⟨node, hnode, hsource⟩, link, hlink, htarget⟩ := ends_of_mem_edgesOf he
  obtain ⟨hlinkSource, hlinkTarget⟩ := h link hlink
  refine ⟨hasNode_iff.mpr ⟨node, hnode, hsource ▸ NodeId.Same.refl _⟩, ?_⟩
  rcases htarget with htarget | htarget
  · exact htarget ▸ hlinkTarget
  · exact htarget ▸ hlinkSource

theorem Closed.mem_toConnections (h : g.Closed) {ns : String} {pair : Key × Key}
    (hpair : pair ∈ g.toConnections ns) :
    pair.1 ∈ g.nodes.map (fun node => node.1.keyIn ns) ∧
      pair.2 ∈ g.nodes.map (fun node => node.1.keyIn ns) := by
  have hkey : ∀ {id : NodeId}, g.hasNode id = true →
      ({ ns, id := (g.spelling id).text } : Key) ∈
        g.nodes.map (fun node => node.1.keyIn ns) := by
    intro id hid
    obtain ⟨node, hmem, -, hspelling⟩ := exists_spelling_of_hasNode hid
    rw [hspelling]
    exact List.mem_map_of_mem hmem
  obtain ⟨e, he, rfl⟩ := List.mem_map.mp hpair
  obtain ⟨hsource, htarget⟩ := h.hasNode_ends he
  exact ⟨hkey hsource, hkey htarget⟩

end NetworkTopology.Graph
