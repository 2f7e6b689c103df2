import NetworkTopology.Graph.Conversion
import NetworkTopology.Graph.Source
import NetworkTopology.Proofs.Result

/-!
# Graphs as they are built

A graph is built from one without nodes by adding nodes and edges, whether it is
loaded from a document or exported from a topology.  What these two steps keep is
true of every graph that a provider meets.
-/

namespace NetworkTopology.Graph

/-- The graphs to which nodes and edges were added, and nothing else happened. -/
inductive Built : Graph → Prop
  | bare {g : Graph} (nodes : g.nodes = []) (links : g.links = []) : Built g
  | addNode {g : Graph} (h : Built g) (id : NodeId) (fields : Fields) :
      Built (g.addNode id fields)
  | addEdge {g : Graph} (h : Built g) (source target : NodeId) (key : Option NodeId)
      (data : Fields) : Built (g.addEdge source target key data)

variable {g g' : Graph}

/-! ## Documents -/

theorem Built.addNodeEntry {place : Nat} {entry : Json} (h : g.Built)
    (hadd : g.addNodeEntry place entry = .ok g') : g'.Built := by
  unfold Graph.addNodeEntry at hadd
  split at hadd
  · obtain ⟨-, -, hadd⟩ := Result.of_bind_ok hadd
    obtain ⟨name, -, hadd⟩ := Result.of_bind_ok hadd
    obtain ⟨id, -, hadd⟩ := Result.of_bind_ok hadd
    cases hadd
    exact h.addNode id _
  · cases hadd

theorem Built.addNodeEntries {place : Nat} {entries : List Json} (h : g.Built)
    (hadd : g.addNodeEntries place entries = .ok g') : g'.Built := by
  induction entries generalizing g place with
  | nil =>
      cases hadd
      exact h
  | cons entry entries ih =>
      rw [Graph.addNodeEntries] at hadd
      obtain ⟨next, hentry, hrest⟩ := Result.of_bind_ok hadd
      exact ih (h.addNodeEntry hentry) hrest

theorem Built.addLinkEntry {entry : Json} (h : g.Built)
    (hadd : g.addLinkEntry entry = .ok g') : g'.Built := by
  unfold Graph.addLinkEntry at hadd
  split at hadd
  · obtain ⟨sourceField, -, hadd⟩ := Result.of_bind_ok hadd
    obtain ⟨targetField, -, hadd⟩ := Result.of_bind_ok hadd
    obtain ⟨-, -, hadd⟩ := Result.of_bind_ok hadd
    obtain ⟨sourceName, -, hadd⟩ := Result.of_bind_ok hadd
    obtain ⟨source, -, hadd⟩ := Result.of_bind_ok hadd
    obtain ⟨targetName, -, hadd⟩ := Result.of_bind_ok hadd
    obtain ⟨target, -, hadd⟩ := Result.of_bind_ok hadd
    obtain ⟨key, -, hadd⟩ := Result.of_bind_ok hadd
    cases hadd
    exact h.addEdge source target _ _
  · cases hadd

theorem Built.addLinkEntries {entries : List Json} (h : g.Built)
    (hadd : g.addLinkEntries entries = .ok g') : g'.Built := by
  induction entries generalizing g with
  | nil =>
      cases hadd
      exact h
  | cons entry entries ih =>
      rw [Graph.addLinkEntries] at hadd
      obtain ⟨next, hentry, hrest⟩ := Result.of_bind_ok hadd
      exact ih (h.addLinkEntry hentry) hrest

theorem built_of_ofDocument {document : Json} (h : ofDocument document = .ok g) :
    g.Built := by
  unfold ofDocument at h
  split at h
  · obtain ⟨nodesField, -, h⟩ := Result.of_bind_ok h
    obtain ⟨nodes, -, h⟩ := Result.of_bind_ok h
    obtain ⟨noded, hnodes, h⟩ := Result.of_bind_ok h
    obtain ⟨linksField, -, h⟩ := Result.of_bind_ok h
    obtain ⟨links, -, h⟩ := Result.of_bind_ok h
    have hnoded : noded.Built := (Built.bare rfl rfl).addNodeEntries hnodes
    exact hnoded.addLinkEntries h
  · cases h

theorem built_of_load {source : GraphSource} (h : source.load = .ok g) : g.Built := by
  cases source with
  | document content => exact built_of_ofDocument h
  | text content =>
      obtain ⟨document, -, hdocument⟩ := Result.of_bind_ok h
      exact built_of_ofDocument hdocument
  | empty =>
      cases h
      exact .bare rfl rfl
  | failing message => cases h
  | directory => cases h

/-! ## Topologies -/

theorem Built.foldl {α : Type} (h : g.Built) (step : Graph → α → Graph)
    (hstep : ∀ g x, g.Built → (step g x).Built) (items : List α) :
    (items.foldl step g).Built := by
  induction items generalizing g with
  | nil => exact h
  | cons item items ih => exact ih (hstep g item h)

/-- What every step keeps is kept by all of them. -/
theorem foldl_keeps {α β : Type} (part : Graph → β) {step : Graph → α → Graph}
    (hstep : ∀ g x, part (step g x) = part g) (items : List α) (g : Graph) :
    part (items.foldl step g) = part g := by
  induction items generalizing g with
  | nil => rfl
  | cons item items ih => exact (ih (step g item)).trans (hstep g item)

theorem built_ofTopology (ns : String) (vertices : List Vertex) (edges : List Edge) :
    (ofTopology ns vertices edges).Built := by
  refine Built.foldl ?_ _ (fun g e h => h.addEdge _ _ _ _) edges
  exact Built.foldl (.bare rfl rfl) _ (fun g v h => h.addNode _ _) vertices

end NetworkTopology.Graph
