import NetworkTopology.Proofs.Graph.Adjacency
import NetworkTopology.Proofs.Graph.NodeLink
import NetworkTopology.Proofs.Json.Reading
import NetworkTopology.Proofs.Topology.Collected

/-!
# Rebuilding from a file

A provider that is rebuilt from a file with a plain node-link document has one vertex
for each text that the document names, and one edge for each of its links: nothing is
lost, and nothing is there that the document does not name.
-/

namespace NetworkTopology

variable {O : Type}

open NetworkTopology.Graph NetworkTopology.Topology

/-- From a file with a plain node-link document a rebuild makes one vertex for each
text, in the order of the first mentions among the nodes and then the links, with the
fields that the nodes of this text set last, and one edge for each link between its
ends, in this direction if the document is directed. -/
theorem refresh_from_file {content : String} {fields : Fields}
    (hread : Json.readCharacters content = .ok (.obj fields)) {directed : Bool}
    {nodes : List (String × Fields)} {links : List (String × String)}
    (hdescribes : Describes fields directed nodes links)
    (hfew : links.length < IntegerLiteral.bound) {watch : Observation O} (hquiet : watch.Quiet)
    {p : Nat} {t : Topology O} (hp : p < t.providers.length) :
    ∃ (t' : Topology O) (edges : List Edge),
      t.refresh watch p (GraphSource.text content).load = (t', .ok ()) ∧
      t'.vertices.entries =
        (nodes.map Prod.fst ++ links.flatMap fun link => [link.1, link.2]).eraseDups.map
          (fun id => .vertex (.mentioned t.ns nodes id)) ∧
      t'.edges.entries = edges.map .edge ∧
      (directed = true → (edges.map fun e => (e.sourceKey, e.targetKey)).Perm
        (links.map fun link => (⟨t.ns, link.1⟩, ⟨t.ns, link.2⟩))) ∧
      (directed = false → (edges.map Edge.ends).Perm
        (links.map fun link => s(⟨t.ns, link.1⟩, ⟨t.ns, link.2⟩))) := by
  have hdistinct := Json.distinct_of_read hread
  obtain ⟨g, hgraph, rfl, hcollects, hlinks⟩ :=
    hdescribes.exists_graph fun node hnode => hdescribes.distinct hdistinct hnode
  have hload : (GraphSource.text content).load = .ok g := by
    change (Json.readCharacters content >>= ofDocument) = .ok g
    rw [hread]
    exact hgraph
  have hjoined : ∀ {β : Type} (attach : Key → Key → β), (g.directed = false →
      ∀ source target, attach source target = attach target source) →
      ((g.toConnections t.ns).map fun pair => attach pair.1 pair.2).Perm
        (links.map fun link => attach ⟨t.ns, link.1⟩ ⟨t.ns, link.2⟩) := by
    intro β attach hattach
    exact (hcollects.toConnections_perm (built_of_load hload) hattach t.ns).trans
      (hlinks (onEnds_attachEnds hattach t.ns))
  have hnumber : g.edges.length = links.length := by
    have hlength := (hjoined (fun _ _ => ()) fun _ _ _ => rfl).length_eq
    rw [List.length_map, List.length_map, length_toConnections] at hlength
    exact hlength
  have hnodeId : ∀ mention ∈ nodes ++ endMentions links, ∀ value,
      Fields.get? mention.2 "node_id" = some value → value.IsNodeId := by
    intro mention hmention value hvalue
    rcases List.mem_append.mp hmention with hnode | hend
    · exact hdescribes.isNodeId hnode hvalue
    · rw [bare_of_mem_endMentions hend] at hvalue
      cases hvalue
  obtain ⟨t', edges, hrefresh, hvertices, hedges, hends⟩ :=
    hquiet.exists_collected hp hcollects hnodeId (hnumber ▸ hfew)
  have hmap : ∀ {β : Type} (attach : Key → Key → β),
      (edges.map fun e => attach e.sourceKey e.targetKey) =
        (g.toConnections t.ns).map fun pair => attach pair.1 pair.2 := by
    intro β attach
    rw [← hends, List.map_map]
    rfl
  refine ⟨t', edges, hload ▸ hrefresh, ?_, hedges, ?_, ?_⟩
  · rw [hvertices, List.map_append, map_fst_endMentions]
    apply List.map_congr_left
    intro id _
    rw [Vertex.mentioned_append_bare fun _ => bare_of_mem_endMentions]
  · intro hdirected
    rw [hmap Prod.mk]
    refine hjoined Prod.mk fun hundirected => ?_
    rw [hdirected] at hundirected
    cases hundirected
  · intro _
    have hunordered := hmap fun source target => s(source, target)
    have hperm := hjoined (fun source target => s(source, target))
      fun _ _ _ => Sym2.eq_swap
    rw [← hunordered] at hperm
    exact hperm

/-- A file in which a node comes twice, a link twice, and a link leads to a text that
is no node. -/
def Graph.repeatedContent : String :=
  "\x7b\"directed\":true,\"nodes\":[\x7b\"id\":\"a\",\"node_id\":7,\"label\":\"A\"\x7d," ++
    "\x7b\"label\":\"B\",\"id\":\"a\"\x7d],\"links\":[\x7b\"source\":\"b\",\"target\":\"a\"\x7d," ++
    "\x7b\"target\":\"a\",\"source\":\"b\"\x7d]\x7d"

def Graph.repeatedFields : Fields :=
  [("directed", .bool true),
    ("nodes", .arr [.obj [("id", .str "a"), ("node_id", .int 7), ("label", .str "A")],
      .obj [("label", .str "B"), ("id", .str "a")]]),
    ("links", .arr [.obj [("source", .str "b"), ("target", .str "a")],
      .obj [("target", .str "a"), ("source", .str "b")]])]

theorem Graph.read_repeated : Json.readCharacters repeatedContent = .ok (.obj repeatedFields) := by
  decide +kernel

def Graph.repeatedNodes : List (String × Fields) :=
  [("a", [("node_id", .int 7), ("label", .str "A")]), ("a", [("label", .str "B")])]

theorem Graph.describes_repeated :
    Describes repeatedFields true repeatedNodes [("b", "a"), ("b", "a")] := by
  refine ⟨rfl, rfl, ⟨_, rfl, ?_⟩, _, rfl, ?_⟩
  · refine .cons ⟨⟨_, rfl, rfl, rfl⟩, by decide, ?_⟩
      (.cons ⟨⟨_, rfl, rfl, rfl⟩, by decide, ?_⟩ .nil)
    · intro value hvalue
      exact .inr ⟨7, (Option.some.inj hvalue).symm⟩
    · intro value hvalue
      cases hvalue
  · exact .cons ⟨_, rfl, rfl, rfl, by decide⟩ (.cons ⟨_, rfl, rfl, rfl, by decide⟩ .nil)

/-- The two entries of the node make one vertex, the two links stay two edges, and what
only a link names is a vertex, too. -/
theorem repeated_from_file :
    ∃ (t' : Topology Unit) (edges : List Edge),
      provided.refresh (.silent Unit) 0 (GraphSource.text repeatedContent).load = (t', .ok ()) ∧
      t'.vertices.entries = [
        .vertex { key := ⟨"n", "a"⟩, label := .str "B", nodeId := .int 7 },
        .vertex { key := ⟨"n", "b"⟩, label := .str "b" }] ∧
      t'.edges.entries = edges.map .edge ∧
      (edges.map fun e => (e.sourceKey, e.targetKey)).Perm
        [(⟨"n", "b"⟩, ⟨"n", "a"⟩), (⟨"n", "b"⟩, ⟨"n", "a"⟩)] := by
  have hfew : [("b", "a"), ("b", "a")].length < IntegerLiteral.bound :=
    Nat.lt_of_lt_of_le (by decide) IntegerLiteral.ten_le_bound
  have hprovided : 0 < provided.providers.length := by decide
  obtain ⟨t', edges, hrefresh, hvertices, hedges, hends, -⟩ :=
    refresh_from_file read_repeated describes_repeated hfew (Observation.silent_quiet Unit)
      hprovided
  refine ⟨t', edges, hrefresh, ?_, hedges, hends rfl⟩
  rw [hvertices]
  decide +kernel

/-- A link between two halves of a surrogate pair, each of which is a text of its own. -/
def Graph.halvesContent : String :=
  "\x7b\"nodes\":[\x7b\"id\":\"\\ud800\"\x7d,\x7b\"id\":\"\\ud801\"\x7d],\"links\":[" ++
    "\x7b\"source\":\"\\ud800\",\"target\":\"\\ud801\"\x7d]\x7d"

example :
    (provided.refresh (.silent Unit) 0 (GraphSource.text halvesContent).load).1.vertices.ids =
      ["\uD7FF\uE001", "\uD7FF\uE002"] := by
  decide +kernel

end NetworkTopology
