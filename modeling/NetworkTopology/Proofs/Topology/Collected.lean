import NetworkTopology.Proofs.Graph.Mentions
import NetworkTopology.Proofs.Topology.Rebuild

/-!
# Rebuilding from a collected graph

A graph that collects mentions of texts is rebuilt as the vertices that the mentions
describe, one for each text, and the pairs of vertices that it connects.
-/

namespace NetworkTopology

variable {O : Type}

/-- A rebuild from a collected graph leaves the vertices that the mentions describe
and the edges that the graph connects. -/
theorem Observation.Quiet.exists_collected {watch : Observation O} (hquiet : watch.Quiet)
    {p : Nat} {t : Topology O} (hp : p < t.providers.length) {g : Graph}
    {mentions : List (String × Fields)} (hcollects : g.Collects mentions)
    (hnodeId : ∀ mention ∈ mentions, ∀ value,
      Fields.get? mention.2 "node_id" = some value → value.IsNodeId)
    (hfew : g.edges.length < IntegerLiteral.bound) :
    ∃ (t' : Topology O) (edges : List Edge), t.refresh watch p (.ok g) = (t', .ok ()) ∧
      t'.vertices.entries = (mentions.map Prod.fst).eraseDups.map
        (fun id => .vertex (.mentioned t.ns mentions id)) ∧
      t'.edges.entries = edges.map .edge ∧
      edges.map (fun e => (e.sourceKey, e.targetKey)) = g.toConnections t.ns := by
  obtain ⟨t', hrefresh, hrebuilt⟩ :=
    hquiet.exists_rebuilt hp (hcollects.toVertices_eq hnodeId t.ns) hfew
  refine ⟨t', _, hrefresh, ?_, hrebuilt.entries_eq, Edge.map_ends_row _ _ _ _⟩
  have hown : ∀ v ∈ (mentions.map Prod.fst).eraseDups.map (Vertex.mentioned t.ns mentions),
      v.key.ns = t.ns := by
    intro v hv
    obtain ⟨id, -, rfl⟩ := List.mem_map.mp hv
    rfl
  rw [hrebuilt.vertices_entries hown, List.map_map, Replica.putAll_nil_of_nodup]
  · rfl
  · rw [List.map_map]
    refine List.Nodup.map ?_ (nodup_eraseDups _)
    intro id other heq
    exact congrArg Key.id heq

end NetworkTopology
