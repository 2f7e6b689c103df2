import NetworkTopology.Proofs.Graph.Distinct
import NetworkTopology.Proofs.Topology.Rebuild

/-!
# Topologies that mirror a graph

After a rebuild a topology mirrors its graph: vertices, edges, their order and the
generators follow from the graph alone, whatever was stored or given out before.  An
edge is attached to the vertices of its nodes, under the spelling of the nodes, which
need not be the spelling under which the edge is enumerated.
-/

namespace NetworkTopology

variable {O : Type}

namespace Topology

/-- A topology that holds what a graph describes, in the namespace and with the
prefixes of a topology before. -/
structure Mirrors (p : Nat) (g : Graph) (before after : Topology O) : Prop where
  /-- One vertex for each text of a node, in the order in which the texts came first. -/
  ids_eq : after.vertices.ids = (g.nodes.map fun node => node.1.text).eraseDups
  /-- Each vertex is what the last node of its text becomes. -/
  vertex : ∀ entity ∈ after.vertices.entries, ∃ node v,
    LastOf (fun node => node.1.text) g.nodes node ∧
      Vertex.ofNode before.ns node.1 node.2 = .ok v ∧ entity = .vertex v
  size_eq : after.edges.entries.length = g.edges.length
  /-- The edges in order, each numbered by its place and attached to the vertices of
  its nodes. -/
  edge : ∀ (k : Nat) (e : GraphEdge), g.edges[k]? = some e →
    ∃ target ∈ g.nodes, target.1.Same e.target ∧
    ∀ id, id = (before.edgeIds p).stem ++ Decimal.text k →
      after.edges.entries[k]? = some (.edge {
        key := { ns := before.ns, id }
        source := {
          key := { ns := before.ns, id := e.source.text ++ "-" ++ id ++ "-connector" }
          vertex := { ns := before.ns, id := e.source.text } }
        target := {
          key := { ns := before.ns, id := target.1.text ++ "-" ++ id ++ "-connector" }
          vertex := { ns := before.ns, id := target.1.text } }
        label := .null
        tooltip := .null })
  vertexIds_eq : (after.provider p).vertexIds =
    { stem := (before.provider p).vertexIds.stem, counter := 0, initialized := false }
  stem_eq : (after.edgeIds p).stem = (before.edgeIds p).stem
  counter_eq : (after.edgeIds p).counter = g.edges.length

variable {p : Nat} {g : Graph} {t t' : Topology O} {become : NodeId × Fields → Vertex}

/-- The nodes are the vertices, the last one under each text. -/
theorem Rebuilt.vertices_of_nodes {pairs : List (Key × Key)}
    (hbecome : ∀ node ∈ g.nodes, Vertex.ofNode t.ns node.1 node.2 = .ok (become node))
    (h : Rebuilt p (g.nodes.map become) pairs t t') :
    t'.vertices.ids = (g.nodes.map fun node => node.1.text).eraseDups ∧
      ∀ entity ∈ t'.vertices.entries, ∃ node v,
        LastOf (fun node => node.1.text) g.nodes node ∧
          Vertex.ofNode t.ns node.1 node.2 = .ok v ∧ entity = .vertex v := by
  have hkey : ∀ node ∈ g.nodes, (become node).key = node.1.keyIn t.ns :=
    fun node hnode => Vertex.key_ofNode (hbecome node hnode)
  have hentries := h.vertices_entries (by
    intro v hv
    obtain ⟨node, hnode, rfl⟩ := List.mem_map.mp hv
    rw [hkey node hnode]
    rfl)
  refine ⟨?_, ?_⟩
  · have hkeys : t'.vertices.entries.map Entity.key =
        ((g.nodes.map fun node => node.1.text).eraseDups).map fun text =>
          ({ ns := t.ns, id := text } : Key) := by
      rw [hentries, Replica.map_key_putAll_nil, ← eraseDups_map]
      · rw [List.map_map, List.map_map, List.map_map]
        exact congrArg _ (List.map_congr_left hkey)
      · intro text other heq
        exact congrArg Key.id heq
    have hids : t'.vertices.ids = (t'.vertices.entries.map Entity.key).map Key.id := by
      rw [Store.ids, List.map_map]
      rfl
    rw [hids, hkeys, List.map_map]
    exact List.map_id _
  · intro entity hentity
    rw [hentries, Replica.mem_putAll_nil_iff] at hentity
    obtain ⟨v, rfl, hv⟩ := hentity.of_map
    obtain ⟨node, rfl, hnode⟩ := hv.of_map
    refine ⟨node, become node, ?_, hbecome node hnode.mem, rfl⟩
    refine hnode.of_keys ?_
    intro x hx y hy htext
    change (become x).key = (become y).key
    rw [hkey x hx, hkey y hy, NodeId.keyIn, NodeId.keyIn, htext]

/-- The edges of a graph are the edges, attached to the vertices of their nodes. -/
theorem Rebuilt.edge_of_pair {vertices : List Vertex} (hclosed : g.Closed)
    (hdistinct : g.Distinct) (h : Rebuilt p vertices (g.toConnections t.ns) t t') {k : Nat}
    {e : GraphEdge} (he : g.edges[k]? = some e) :
    ∃ target ∈ g.nodes, target.1.Same e.target ∧
      t'.edges.entries[k]? = some (.edge (.between
        { ns := t.ns, id := (t.edgeIds p).stem ++ Decimal.text k }
        (e.source.keyIn t.ns) (target.1.keyIn t.ns))) := by
  have hmem := List.mem_of_getElem? he
  obtain ⟨⟨source, hsource, hspelled⟩, -⟩ := Graph.ends_of_mem_edgesOf hmem
  have hnode := (hclosed.hasNode_ends hmem).2
  obtain ⟨target, hmem, hsame, hspelling⟩ := Graph.exists_spelling_of_hasNode hnode
  refine ⟨target, hmem, hsame, ?_⟩
  have hpair : (g.toConnections t.ns)[k]? =
      some (e.source.keyIn t.ns, target.1.keyIn t.ns) := by
    rw [Graph.toConnections, List.getElem?_map, he, Option.map_some, hspelling, hspelled,
      hdistinct.spelling_of_mem hsource]
    rfl
  rw [h.entries_eq, List.getElem?_map, Edge.getElem?_row, hpair, Int.zero_add]
  rfl

theorem Rebuilt.mirrors (hp : p < t.providers.length) (hclosed : g.Closed)
    (hdistinct : g.Distinct)
    (hbecome : ∀ node ∈ g.nodes, Vertex.ofNode t.ns node.1 node.2 = .ok (become node))
    (h : Rebuilt p (g.nodes.map become) (g.toConnections t.ns) t t') : Mirrors p g t t' := by
  obtain ⟨hids, hvertex⟩ := h.vertices_of_nodes hbecome
  have hgenerator := h.edgeIds_eq hp
  rw [Graph.length_toConnections] at hgenerator
  refine ⟨hids, hvertex, ?_, ?_, h.vertexIds_eq hp, ?_, ?_⟩
  · rw [h.entries_eq, List.length_map, Edge.length_row, Graph.length_toConnections]
  · intro k e he
    obtain ⟨target, hmem, hsame, hentry⟩ := h.edge_of_pair hclosed hdistinct he
    refine ⟨target, hmem, hsame, ?_⟩
    rintro id rfl
    exact hentry
  · rw [hgenerator]
    exact IdGenerator.advance_stem _ _
  · rw [hgenerator]
    cases g.edges.length with
    | zero => rfl
    | succ n => exact Int.zero_add _

end Topology

open NetworkTopology.Topology

/-- A rebuild from a graph whose nodes can be converted and whose edges can be
numbered leads to a topology that mirrors the graph.  Another provider of the same
namespace and prefixes comes to the same content, whatever was there before, and a
second rebuild changes nothing more. -/
theorem refresh_mirrors_graph {watch : Observation O} (hquiet : watch.Quiet) {p : Nat}
    {t : Topology O} (hp : p < t.providers.length) {g : Graph} (hclosed : g.Closed)
    (hdistinct : g.Distinct) (hreadable : ¬ g.Unreadable)
    (hfew : g.edges.length < IntegerLiteral.bound) :
    ∃ t', t.refresh watch p (.ok g) = (t', .ok ()) ∧ Mirrors p g t t' ∧
      (∀ (other : Topology O) (watch' : Observation O), watch'.Quiet →
        ∀ q < other.providers.length, other.ns = t.ns →
        (other.provider q).vertexIds.stem = (t.provider p).vertexIds.stem →
        (other.edgeIds q).stem = (t.edgeIds p).stem →
        ∃ other', other.refresh watch' q (.ok g) = (other', .ok ()) ∧
          other'.vertices = t'.vertices ∧ other'.edges = t'.edges ∧
          (other'.provider q).vertexIds = (t'.provider p).vertexIds ∧
          other'.edgeIds q = t'.edgeIds p) ∧
      ∃ t'', t'.refresh watch p (.ok g) = (t'', .ok ()) ∧
        t''.vertices = t'.vertices ∧ t''.edges = t'.edges ∧ t''.providers = t'.providers := by
  have hconvert : ∃ vertices, Graph.toVertices t.ns g.nodes = .ok vertices := by
    cases hvertices : Graph.toVertices t.ns g.nodes with
    | error fault => exact absurd (Graph.toVertices_error_iff.mp ⟨fault, hvertices⟩) hreadable
    | ok vertices => exact ⟨vertices, rfl⟩
  obtain ⟨vertices, hvertices⟩ := hconvert
  obtain ⟨become, rfl, hbecome⟩ := Graph.toVertices_eq_ok_iff.mp hvertices
  obtain ⟨t', hrefresh, hrebuilt⟩ := hquiet.exists_rebuilt hp hvertices hfew
  have hgenerator := hrebuilt.edgeIds_eq hp
  refine ⟨t', hrefresh, hrebuilt.mirrors hp hclosed hdistinct hbecome, ?_, ?_⟩
  · intro other watch' hquiet' q hq hns hvertexStem hedgeStem
    rw [← hns] at hvertices
    obtain ⟨other', hrefresh', hrebuilt'⟩ := hquiet'.exists_rebuilt hq hvertices hfew
    have hpairs : g.toConnections other.ns = g.toConnections t.ns := by rw [hns]
    rw [hpairs] at hrebuilt'
    obtain ⟨hsame, hsame'⟩ := hrebuilt.content_eq hrebuilt' hns hedgeStem
    refine ⟨other', hrefresh', hsame, hsame', ?_, ?_⟩
    · rw [hrebuilt'.vertexIds_eq hq, hrebuilt.vertexIds_eq hp, IdGenerator.reset,
        IdGenerator.reset, hvertexStem]
    · rw [hrebuilt'.edgeIds_eq hq, hgenerator, IdGenerator.reset, IdGenerator.reset, hedgeStem]
  · have hp' : p < t'.providers.length := by
      rw [hrebuilt.length_eq]
      exact hp
    rw [← hrebuilt.ns_eq] at hvertices
    obtain ⟨t'', hrefresh', hrebuilt'⟩ := hquiet.exists_rebuilt hp' hvertices hfew
    have hpairs : g.toConnections t'.ns = g.toConnections t.ns := by rw [hrebuilt.ns_eq]
    have hstem : (t'.edgeIds p).stem = (t.edgeIds p).stem := by
      rw [hgenerator]
      exact IdGenerator.advance_stem _ _
    rw [hpairs] at hrebuilt'
    obtain ⟨hsame, hsame'⟩ := hrebuilt.content_eq hrebuilt' hrebuilt.ns_eq hstem
    exact ⟨t'', hrefresh', hsame, hsame', hrebuilt.providers_twice hp hrebuilt'⟩

/-- Two nodes and a link, whose target is spelled otherwise than its node. -/
def Graph.respelled : Graph :=
  { multigraph := true, nodes := [(.str "a", []), (.int 1, [])]
    links := [{ source := .str "a", target := .bool true, parallel := [(.int 0, [])] }] }

theorem Graph.load_respelled :
    (GraphSource.document (.obj [
        ("nodes", .arr [.obj [("id", .str "a")], .obj [("id", .int 1)]]),
        ("links", .arr [.obj [("source", .str "a"), ("target", .bool true)]])])).load =
      .ok .respelled := rfl

/-- An edge is enumerated with the target `True` and attached to the vertex `1`. -/
theorem target_not_as_enumerated :
    ∃ t' e edge, provided.refresh (.silent Unit) 0 (.ok .respelled) = (t', .ok ()) ∧
      Graph.respelled.edges[0]? = some e ∧ t'.edges.entries[0]? = some (.edge edge) ∧
      e.target.text = "True" ∧ edge.targetKey = { ns := provided.ns, id := "1" } ∧
      edge.targetKey ≠ { ns := provided.ns, id := e.target.text } := by
  have hok : (provided.refresh (.silent Unit) 0 (.ok .respelled)).2 = .ok () := by decide +kernel
  exact ⟨(provided.refresh (.silent Unit) 0 (.ok .respelled)).1,
    { source := .str "a", target := .bool true, key := some (.int 0), data := [] },
    .between { ns := "n", id := "e0" } { ns := "n", id := "a" } { ns := "n", id := "1" },
    (Prod.eta _).symm.trans (congrArg (Prod.mk _) hok), rfl, by decide +kernel, rfl, rfl, by decide⟩

/-- What was there before, two vertices and an edge, leaves no trace. -/
theorem respelled_mirrored_after_linked :
    ∃ before t' : Topology Unit, before.vertices.ids = ["a", "b"] ∧ before.edges.ids = ["e0"] ∧
      before.refresh (.silent Unit) 0 (.ok .respelled) = (t', .ok ()) ∧
      Mirrors 0 .respelled before t' ∧ t'.vertices.ids = ["a", "1"] := by
  let before := (provided.refresh (.silent Unit) 0 (.ok (.linked (.int 7)))).1
  have hprovided : 0 < before.providers.length := by decide +kernel
  have hbuilt : Graph.respelled.Built := Graph.built_of_load Graph.load_respelled
  have hreadable : ¬ Graph.respelled.Unreadable := by
    rintro ⟨node, hnode, hrefused⟩
    rcases List.mem_cons.mp hnode with rfl | hnode
    · rcases hrefused with htext | ⟨fault, hfault⟩
      · cases htext
      · cases hfault
    · rw [List.mem_singleton.mp hnode, NodeId.isWritable,
        decide_eq_true (IntegerLiteral.writable_of_lt_ten (by decide))] at hrefused
      rcases hrefused with htext | ⟨fault, hfault⟩
      · cases htext
      · cases hfault
  have hfew : Graph.respelled.edges.length < IntegerLiteral.bound :=
    Nat.lt_of_lt_of_le (by decide) IntegerLiteral.ten_le_bound
  obtain ⟨t', hrefresh, hmirrors, -, -⟩ := refresh_mirrors_graph
    (Observation.silent_quiet Unit) hprovided hbuilt.closed hbuilt.distinct hreadable hfew
  refine ⟨before, t', by decide +kernel, by decide +kernel, hrefresh, hmirrors, ?_⟩
  rw [hmirrors.ids_eq]
  decide +kernel

end NetworkTopology
