import Mathlib.Data.List.Pairwise
import NetworkTopology.Proofs.Graph.Closed

/-!
# Graphs whose nodes are told apart

In a distinct graph no two nodes have the same name, under whatever spelling.  Adding
nodes and edges keeps a graph distinct.  A node of a distinct graph is the only one
of its name, so a name is spelled as its node is.
-/

namespace NetworkTopology.Graph

/-- No two nodes have the same name. -/
def Distinct (g : Graph) : Prop :=
  g.nodes.Pairwise fun node other => ¬ node.1.Same other.1

variable {g : Graph}

theorem map_fst_addNode (g : Graph) (id : NodeId) (fields : Fields) :
    (g.addNode id fields).nodes.map Prod.fst =
      if g.hasNode id then g.nodes.map Prod.fst else g.nodes.map Prod.fst ++ [id] := by
  unfold addNode
  split
  · rw [List.map_map]
    apply List.map_congr_left
    intro node _
    simp only [Function.comp]
    split <;> rfl
  · rw [List.map_append, List.map_singleton]

theorem distinct_iff : g.Distinct ↔
    (g.nodes.map Prod.fst).Pairwise fun id other => ¬ id.Same other := by
  rw [Distinct, List.pairwise_map]

theorem Distinct.addNode (h : g.Distinct) (id : NodeId) (fields : Fields) :
    (g.addNode id fields).Distinct := by
  rw [distinct_iff] at h ⊢
  rw [map_fst_addNode]
  split
  · exact h
  · rename_i hnew
    refine List.pairwise_append.mpr ⟨h, List.pairwise_singleton _ _, ?_⟩
    intro other hother name hname hsame
    obtain ⟨node, hnode, rfl⟩ := List.mem_map.mp hother
    rw [List.mem_singleton.mp hname] at hsame
    exact hnew (hasNode_iff.mpr ⟨node, hnode, hsame⟩)

theorem Distinct.addEdge (h : g.Distinct) (source target : NodeId) (key : Option NodeId)
    (data : Fields) : (g.addEdge source target key data).Distinct :=
  (h.addNode source []).addNode target []

theorem Built.distinct (h : g.Built) : g.Distinct := by
  induction h with
  | bare nodes links =>
      rw [Distinct, nodes]
      exact List.Pairwise.nil
  | addNode _ id fields ih => exact ih.addNode id fields
  | addEdge _ source target key data ih => exact ih.addEdge source target key data

/-! ## Spelling -/

/-- Nodes of one name are one node. -/
theorem Distinct.eq_of_same (h : g.Distinct) {node other : NodeId × Fields}
    (hnode : node ∈ g.nodes) (hother : other ∈ g.nodes) (hsame : node.1.Same other.1) :
    node = other := by
  by_contra hne
  have : Std.Symm fun node other : NodeId × Fields => ¬ node.1.Same other.1 :=
    ⟨fun _ _ hapart hsame => hapart hsame.symm⟩
  exact List.Pairwise.forall h hnode hother hne hsame

theorem Distinct.spelling_of_mem (h : g.Distinct) {node : NodeId × Fields}
    (hnode : node ∈ g.nodes) : g.spelling node.1 = node.1 := by
  obtain ⟨found, hmem, hsame, hspelling⟩ :=
    exists_spelling_of_hasNode (hasNode_iff.mpr ⟨node, hnode, NodeId.Same.refl node.1⟩)
  rw [hspelling, h.eq_of_same hmem hnode hsame]

end NetworkTopology.Graph
