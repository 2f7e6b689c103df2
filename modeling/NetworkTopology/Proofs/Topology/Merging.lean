import NetworkTopology.Proofs.Graph.Loaded
import NetworkTopology.Proofs.Topology.Mirror

/-!
# Nodes that share a vertex

A vertex is known by the text of its node.  Names that are no strings are told apart by
their texts, but a string may be the text of another name: the nodes `1` and `"1"`
become one vertex.  In a graph that was read from a text nothing else is merged.
-/

namespace NetworkTopology

variable {O : Type}

open NetworkTopology.Topology

theorem NodeId.keyIn_eq_iff {ns : String} {id other : NodeId} :
    id.keyIn ns = other.keyIn ns ↔ id.text = other.text := by
  constructor
  · exact congrArg Key.id
  · intro h
    rw [keyIn, keyIn, h]

/-- Two edges of a graph meet at a node. -/
def GraphEdge.SharesEnd (e f : GraphEdge) : Prop :=
  e.source.Same f.source ∨ e.source.Same f.target ∨ e.target.Same f.source ∨ e.target.Same f.target

namespace Edge

/-- Two edges meet at a vertex. -/
def SharesEnd (e f : Edge) : Prop :=
  ∃ key, e.connects key = true ∧ f.connects key = true

theorem sharesEnd_iff {e f : Edge} :
    e.SharesEnd f ↔ e.sourceKey = f.sourceKey ∨ e.sourceKey = f.targetKey ∨
      e.targetKey = f.sourceKey ∨ e.targetKey = f.targetKey := by
  simp only [SharesEnd, connects_iff]
  constructor
  · rintro ⟨key, rfl | rfl, h | h⟩
    · exact .inl h.symm
    · exact .inr (.inl h.symm)
    · exact .inr (.inr (.inl h.symm))
    · exact .inr (.inr (.inr h.symm))
  · rintro (h | h | h | h)
    · exact ⟨_, .inl rfl, .inl h.symm⟩
    · exact ⟨_, .inl rfl, .inr h.symm⟩
    · exact ⟨_, .inr rfl, .inl h.symm⟩
    · exact ⟨_, .inr rfl, .inr h.symm⟩

end Edge

namespace Graph

variable {g : Graph}

/-- No string that is a node is the text of another node. -/
def TextsApart (g : Graph) : Prop :=
  ∀ node ∈ g.nodes, ∀ other ∈ g.nodes, other.1 = .str node.1.text → other = node

instance : Decidable g.TextsApart :=
  inferInstanceAs (Decidable (∀ node ∈ g.nodes, ∀ other ∈ g.nodes,
    other.1 = .str node.1.text → other = node))

/-- Nodes with one text are one node, but for a string and what it spells. -/
theorem eq_of_texts_eq (hcanonical : g.Canonical) (hdistinct : g.Distinct)
    {node other : NodeId × Fields} (hnode : node ∈ g.nodes) (hother : other ∈ g.nodes)
    (htext : node.1.text = other.1.text) :
    node = other ∨ node.1 = .str other.1.text ∨ other.1 = .str node.1.text := by
  rcases NodeId.eq_of_text_eq (hcanonical node hnode).1 (hcanonical other hother).1 htext with
    hname | hspelled
  · exact .inl (hdistinct.eq_of_same hnode hother (congrArg NodeId.identity hname))
  · exact .inr hspelled

theorem TextsApart.eq_of_texts_eq (h : g.TextsApart) (hcanonical : g.Canonical)
    (hdistinct : g.Distinct) {node other : NodeId × Fields} (hnode : node ∈ g.nodes)
    (hother : other ∈ g.nodes) (htext : node.1.text = other.1.text) : node = other := by
  rcases Graph.eq_of_texts_eq hcanonical hdistinct hnode hother htext with heq | hspelled | hspelled
  · exact heq
  · exact h other hother node hnode hspelled
  · exact (h node hnode other hother hspelled).symm

/-- The texts of the nodes are all different if no string spells another node, and only
then. -/
theorem nodup_texts_iff (hcanonical : g.Canonical) (hdistinct : g.Distinct) :
    (g.nodes.map fun node => node.1.text).Nodup ↔ g.TextsApart := by
  constructor
  · intro hnodup node hnode other hother hspelled
    refine List.inj_on_of_nodup_map hnodup hother hnode ?_
    rw [hspelled]
    rfl
  · intro hapart
    rw [List.nodup_iff_pairwise_ne, List.pairwise_map]
    refine List.Pairwise.imp_of_mem ?_ hdistinct
    intro node other hnode hother hne htext
    have heq := hapart.eq_of_texts_eq hcanonical hdistinct hnode hother htext
    exact hne (heq ▸ NodeId.Same.refl _)

theorem exists_toVertices (h : ¬ g.Unreadable) (ns : String) :
    ∃ vertices, toVertices ns g.nodes = .ok vertices := by
  cases hvertices : toVertices ns g.nodes with
  | error fault => exact absurd (toVertices_error_iff.mp ⟨fault, hvertices⟩) h
  | ok vertices => exact ⟨vertices, rfl⟩

end Graph

namespace Topology

variable {p : Nat} {g : Graph} {t t' : Topology O} {become : NodeId × Fields → Vertex}

/-- The nodes at the ends of an edge, and the edge between their vertices. -/
theorem Rebuilt.exists_ends {vertices : List Vertex} (hclosed : g.Closed)
    (hdistinct : g.Distinct) (h : Rebuilt p vertices (g.toConnections t.ns) t t') {k : Nat}
    {e : GraphEdge} (he : g.edges[k]? = some e) :
    ∃ source ∈ g.nodes, ∃ target ∈ g.nodes, ∃ edge, source.1.Same e.source ∧
      target.1.Same e.target ∧ t'.edges.entries[k]? = some (.edge edge) ∧
      edge.sourceKey = source.1.keyIn t.ns ∧ edge.targetKey = target.1.keyIn t.ns := by
  obtain ⟨target, htarget, hsame, hentry⟩ := h.edge_of_pair hclosed hdistinct he
  obtain ⟨⟨source, hsource, hspelled⟩, -⟩ := Graph.ends_of_mem_edgesOf (List.mem_of_getElem? he)
  refine ⟨source, hsource, target, htarget, _, ?_, hsame, hentry, ?_, rfl⟩
  · rw [hspelled]
    exact NodeId.Same.refl _
  · rw [← hspelled]
    rfl

/-- Edges meet at a vertex exactly if they meet at a node. -/
theorem Rebuilt.sharesEnd_iff {vertices : List Vertex} (hclosed : g.Closed)
    (hdistinct : g.Distinct) (hcanonical : g.Canonical) (hapart : g.TextsApart)
    (h : Rebuilt p vertices (g.toConnections t.ns) t t') {j k : Nat} {e f : GraphEdge}
    (he : g.edges[j]? = some e) (hf : g.edges[k]? = some f) :
    ∃ edge other, t'.edges.entries[j]? = some (.edge edge) ∧
      t'.edges.entries[k]? = some (.edge other) ∧ (edge.SharesEnd other ↔ e.SharesEnd f) := by
  obtain ⟨source, hsource, target, htarget, edge, hes, het, hedge, hsourceKey, htargetKey⟩ :=
    h.exists_ends hclosed hdistinct he
  obtain ⟨source', hsource', target', htarget', other, hfs, hft, hother, hsourceKey',
    htargetKey'⟩ := h.exists_ends hclosed hdistinct hf
  refine ⟨edge, other, hedge, hother, ?_⟩
  -- Ends have one key exactly if they are one node.
  have hends : ∀ {node node' : NodeId × Fields} {id id' : NodeId}, node ∈ g.nodes →
      node' ∈ g.nodes → node.1.Same id → node'.1.Same id' →
      (node.1.keyIn t.ns = node'.1.keyIn t.ns ↔ id.Same id') := by
    intro node node' id id' hnode hnode' hid hid'
    rw [NodeId.keyIn_eq_iff]
    constructor
    · intro htext
      have heq := hapart.eq_of_texts_eq hcanonical hdistinct hnode hnode' htext
      exact hid.symm.trans (heq ▸ hid')
    · intro hsame
      have heq := hdistinct.eq_of_same hnode hnode' (hid.trans (hsame.trans hid'.symm))
      rw [heq]
  rw [Edge.sharesEnd_iff, GraphEdge.SharesEnd, hsourceKey, htargetKey, hsourceKey', htargetKey',
    hends hsource hsource' hes hfs, hends hsource htarget' hes hft, hends htarget hsource' het hfs,
    hends htarget htarget' het hft]

/-- Where no string spells another node, the vertices are the nodes, one by one. -/
theorem Rebuilt.entries_of_apart (hcanonical : g.Canonical) (hdistinct : g.Distinct)
    (hapart : g.TextsApart)
    (hbecome : ∀ node ∈ g.nodes, Vertex.ofNode t.ns node.1 node.2 = .ok (become node))
    {pairs : List (Key × Key)} (h : Rebuilt p (g.nodes.map become) pairs t t') :
    t'.vertices.entries = g.nodes.map fun node => .vertex (become node) := by
  have hkey : ∀ node ∈ g.nodes, (become node).key = node.1.keyIn t.ns :=
    fun node hnode => Vertex.key_ofNode (hbecome node hnode)
  have hentries := h.vertices_entries (by
    intro v hv
    obtain ⟨node, hnode, rfl⟩ := List.mem_map.mp hv
    rw [hkey node hnode]
    rfl)
  rw [List.map_map] at hentries
  rw [hentries]
  refine Replica.putAll_nil_of_nodup ?_
  have hkeys : (g.nodes.map (Entity.vertex ∘ become)).map Entity.key =
      (g.nodes.map fun node => node.1.text).map fun text => ({ ns := t.ns, id := text } : Key) := by
    rw [List.map_map, List.map_map]
    exact List.map_congr_left hkey
  rw [hkeys]
  refine ((Graph.nodup_texts_iff hcanonical hdistinct).mpr hapart).map ?_
  intro text other heq
  exact congrArg Key.id heq

end Topology

/-- A rebuild from a graph that was read from a text merges two nodes only if one is a
string, the text of the other.  If there is no such pair, and only then, there are as
many vertices as nodes; each is what its own node becomes, different nodes have different
ones, and edges meet at a vertex exactly if they meet at a node. -/
theorem refresh_merges_only_spelled {watch : Observation O} (hquiet : watch.Quiet) {p : Nat}
    {t : Topology O} (hp : p < t.providers.length) {content : String} {g : Graph}
    (hload : (GraphSource.text content).load = .ok g) (hreadable : ¬ g.Unreadable)
    (hfew : g.edges.length < IntegerLiteral.bound) :
    (∀ node ∈ g.nodes, ∀ other ∈ g.nodes, node.1.text = other.1.text →
      node = other ∨ node.1 = .str other.1.text ∨ other.1 = .str node.1.text) ∧
    ∃ t', t.refresh watch p (.ok g) = (t', .ok ()) ∧
      t'.vertices.ids = (g.nodes.map fun node => node.1.text).eraseDups ∧
      (t'.vertices.entries.length = g.nodes.length ↔ g.TextsApart) ∧
      (g.TextsApart →
        (∃ become : NodeId × Fields → Vertex,
          t'.vertices.entries = g.nodes.map (fun node => .vertex (become node)) ∧
          (∀ node ∈ g.nodes, Vertex.ofNode t.ns node.1 node.2 = .ok (become node)) ∧
          ∀ node ∈ g.nodes, ∀ other ∈ g.nodes,
            (become node).key = (become other).key → node = other) ∧
        t'.edges.entries.length = g.edges.length ∧
        ∀ (j k : Nat) (e f : GraphEdge), g.edges[j]? = some e → g.edges[k]? = some f →
          ∃ edge other, t'.edges.entries[j]? = some (.edge edge) ∧
            t'.edges.entries[k]? = some (.edge other) ∧
            (edge.SharesEnd other ↔ e.SharesEnd f)) := by
  have hbuilt := Graph.built_of_load hload
  have hcanonical : g.Canonical := Graph.canonical_of_read hload
  obtain ⟨vertices, hvertices⟩ := Graph.exists_toVertices hreadable t.ns
  obtain ⟨become, rfl, hbecome⟩ := Graph.toVertices_eq_ok_iff.mp hvertices
  obtain ⟨t', hrefresh, hrebuilt⟩ := hquiet.exists_rebuilt hp hvertices hfew
  have hmirrors := hrebuilt.mirrors hp hbuilt.closed hbuilt.distinct hbecome
  refine ⟨fun node hnode other hother =>
    Graph.eq_of_texts_eq hcanonical hbuilt.distinct hnode hother, t', hrefresh,
    hmirrors.ids_eq, ?_, ?_⟩
  · have hlength : t'.vertices.entries.length =
        (g.nodes.map fun node => node.1.text).eraseDups.length := by
      rw [← hmirrors.ids_eq, Store.ids, List.length_map]
    rw [hlength, ← Graph.nodup_texts_iff hcanonical hbuilt.distinct, ← length_eraseDups_eq_iff,
      List.length_map]
  · intro hapart
    refine ⟨⟨become, hrebuilt.entries_of_apart hcanonical hbuilt.distinct hapart hbecome, hbecome,
      ?_⟩, hmirrors.size_eq, ?_⟩
    · intro node hnode other hother hkey
      rw [Vertex.key_ofNode (hbecome node hnode), Vertex.key_ofNode (hbecome other hother),
        NodeId.keyIn_eq_iff] at hkey
      exact hapart.eq_of_texts_eq hcanonical hbuilt.distinct hnode hother hkey
    · intro j k e f he hf
      exact hrebuilt.sharesEnd_iff hbuilt.closed hbuilt.distinct hcanonical hapart he hf

/-- A file with a node of every kind, none of them spelled by a string. -/
def Graph.mixedText : String :=
  "\x7b\"nodes\":[\x7b\"id\":\"a\"\x7d,\x7b\"id\":1\x7d,\x7b\"id\":1.5\x7d,\x7b\"id\":false\x7d," ++
    "\x7b\"id\":[1,\"1\"]\x7d,\x7b\"id\":NaN\x7d]," ++
    "\"links\":[\x7b\"source\":1,\"target\":\"a\"\x7d," ++
    "\x7b\"source\":\"a\",\"target\":[1,\"1\"]\x7d]\x7d"

def Graph.mixed : Graph :=
  { multigraph := true
    nodes := [(.str "a", []), (.int 1, []), (.float (.finite false 3 (-1)), []), (.bool false, []),
      (.tuple [.int 1, .str "1"], []), (.float .nan, [])]
    links := [{ source := .int 1, target := .str "a", parallel := [(.int 0, [])] },
      { source := .str "a", target := .tuple [.int 1, .str "1"], parallel := [(.int 0, [])] }] }

theorem Graph.load_mixed : (GraphSource.text mixedText).load = .ok mixed := by
  decide +kernel

/-- Six nodes make six vertices. -/
theorem mixed_nodes_stay_apart :
    ∃ t', provided.refresh (.silent Unit) 0 (.ok .mixed) = (t', .ok ()) ∧
      t'.vertices.entries.length = 6 ∧
      t'.vertices.ids = ["a", "1", "1.5", "False", "(1, '1')", "nan"] := by
  have hreadable : ¬ Graph.mixed.Unreadable := by
    rintro ⟨node, hnode, hrefused⟩
    have hall : (Graph.mixed.nodes.all fun node => node.1.isWritable && node.2.isEmpty) = true := by
      decide +kernel
    have hbare := List.all_eq_true.mp hall node hnode
    rw [Bool.and_eq_true, List.isEmpty_iff] at hbare
    rw [hbare.1, hbare.2] at hrefused
    rcases hrefused with htext | ⟨fault, hfault⟩
    · cases htext
    · cases hfault
  have hfew : Graph.mixed.edges.length < IntegerLiteral.bound :=
    Nat.lt_of_lt_of_le (by decide) IntegerLiteral.ten_le_bound
  have hprovided : 0 < provided.providers.length := by decide
  obtain ⟨-, t', hrefresh, hids, hcount, -⟩ := refresh_merges_only_spelled
    (Observation.silent_quiet Unit) hprovided Graph.load_mixed hreadable hfew
  have hapart : Graph.mixed.TextsApart := by decide +kernel
  refine ⟨t', hrefresh, hcount.mpr hapart, ?_⟩
  rw [hids]
  decide +kernel

/-- A file with two nodes, a number and the string of its digits, and a link between
them. -/
def Graph.spelledText : String :=
  "\x7b\"nodes\":[\x7b\"id\":1\x7d,\x7b\"id\":\"1\"\x7d]," ++
    "\"links\":[\x7b\"source\":1,\"target\":\"1\"\x7d]\x7d"

/-- The two nodes become one vertex, and the link a loop. -/
theorem spelled_node_merged :
    ∃ g t' v edge, (GraphSource.text Graph.spelledText).load = .ok g ∧ g.nodes.length = 2 ∧
      provided.refresh (.silent Unit) 0 (.ok g) = (t', .ok ()) ∧
      t'.vertices.entries = [.vertex v] ∧ t'.edges.entries = [.edge edge] ∧
      edge.sourceKey = edge.targetKey := by
  let g : Graph :=
    { multigraph := true, nodes := [(.int 1, []), (.str "1", [])]
      links := [{ source := .int 1, target := .str "1", parallel := [(.int 0, [])] }] }
  have hok : (provided.refresh (.silent Unit) 0 (.ok g)).2 = .ok () := by decide +kernel
  refine ⟨g, (provided.refresh (.silent Unit) 0 (.ok g)).1,
    { key := { ns := "n", id := "1" }, label := .str "1" },
    .between { ns := "n", id := "e0" } { ns := "n", id := "1" } { ns := "n", id := "1" },
    by decide +kernel, rfl, (Prod.eta _).symm.trans (congrArg (Prod.mk _) hok), by decide +kernel,
    by decide +kernel, rfl⟩

end NetworkTopology
