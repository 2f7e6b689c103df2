import NetworkTopology.Proofs.Graph.Joining
import NetworkTopology.Proofs.Graph.Mentions

/-!
# Documents that describe vertices and links

A plain node-link document lists nodes that are named by texts, with fields that
vertices show, and links that say nothing but which texts they join.  The graph of
such a document collects its nodes, then the ends of its links, and has an edge for
each link.
-/

namespace NetworkTopology.Graph

variable {β : Type}

/-- The fields of a node, besides its name, that a vertex shows. -/
def shownFields : List String :=
  ["label", "tooltip", "description", "ip_address", "mgmt_address", "node_id"]

/-- An entry that names a node by a text and describes it by fields of a vertex. -/
structure NodeEntry (entry : Json) (node : String × Fields) : Prop where
  fields : ∃ fields : Fields, entry = .obj fields ∧ fields.get? "id" = some (.str node.1) ∧
    node.2 = fields.without ["id"]
  shown : ∀ field ∈ node.2, field.1 ∈ shownFields
  nodeId : ∀ value, Fields.get? node.2 "node_id" = some value → value.IsNodeId

/-- An entry that names the ends of a link by texts and says nothing else. -/
def LinkEntry (entry : Json) (link : String × String) : Prop :=
  ∃ fields : Fields, entry = .obj fields ∧ fields.get? "source" = some (.str link.1) ∧
    fields.get? "target" = some (.str link.2) ∧
    ∀ field ∈ fields, field.1 ∈ ["source", "target"]

/-- The fields of a document of a multigraph, directed or not, with these nodes and
links. -/
structure Describes (fields : Fields) (directed : Bool) (nodes : List (String × Fields))
    (links : List (String × String)) : Prop where
  multigraph : (fields.get? "multigraph").getD (.bool true) = .bool true
  directed : (fields.get? "directed").getD (.bool false) = .bool directed
  nodes : ∃ entries, fields.get? "nodes" = some (.arr entries) ∧
    List.Forall₂ NodeEntry entries nodes
  links : ∃ entries, fields.get? "links" = some (.arr entries) ∧
    List.Forall₂ LinkEntry entries links

variable {g : Graph} {fields : Fields} {directed : Bool} {nodes : List (String × Fields)}
  {links : List (String × String)}

theorem exists_entry_of_mem {α : Type} {IsEntry : Json → α → Prop} {entries : List Json}
    {items : List α} (h : List.Forall₂ IsEntry entries items) {item : α} (hitem : item ∈ items) :
    ∃ entry ∈ entries, IsEntry entry item := by
  induction h with
  | nil => cases hitem
  | cons hentry _ ih =>
      rcases List.mem_cons.mp hitem with rfl | hitem
      · exact ⟨_, List.mem_cons_self, hentry⟩
      · obtain ⟨entry, hmem, hentry⟩ := ih hitem
        exact ⟨entry, List.mem_cons_of_mem _ hmem, hentry⟩

theorem checkReserved_ok {reserved : List String} {fields : Fields}
    (h : ∀ field ∈ fields, field.1 ∉ reserved) : checkReserved reserved fields = .ok () := by
  have hnone : fields.find? (fun field => reserved.contains field.1) = none := by
    rw [List.find?_eq_none]
    intro field hfield hmem
    exact h field hfield (List.contains_iff_mem.mp hmem)
  rw [checkReserved, hnone]

theorem addNodeEntry_eq {entry : Json} {node : String × Fields} (h : NodeEntry entry node)
    (place : Nat) : g.addNodeEntry place entry = .ok (g.addNode (.str node.1) node.2) := by
  obtain ⟨⟨fields, rfl, hid, hdata⟩, hshown, -⟩ := h
  have hreserved : checkReserved reservedForNodes (fields.without ["id"]) = .ok () := by
    apply checkReserved_ok
    intro field hfield
    have hmem := hshown field (hdata ▸ hfield)
    have hapart : ∀ name ∈ shownFields, name ∉ reservedForNodes := by decide
    exact hapart field.1 hmem
  simp only [addNodeEntry, Json.fields?, hreserved, hid]
  rw [hdata]
  rfl

theorem addNodeEntries_eq {entries : List Json} (h : List.Forall₂ NodeEntry entries nodes)
    (place : Nat) (g : Graph) : g.addNodeEntries place entries =
      .ok (nodes.foldl (fun g node => g.addNode (.str node.1) node.2) g) := by
  induction h generalizing place g with
  | nil => rfl
  | cons hentry _ ih =>
      rw [addNodeEntries, addNodeEntry_eq hentry]
      exact ih (place + 1) _

theorem addLinkEntry_eq (hmultigraph : g.multigraph = true) {entry : Json}
    {link : String × String} (h : LinkEntry entry link) :
    g.addLinkEntry entry = .ok (g.addEdge (.str link.1) (.str link.2) none []) := by
  obtain ⟨fields, rfl, hsource, htarget, hnames⟩ := h
  have hdata : fields.without ["source", "target", "key"] = [] := by
    rw [Fields.without, List.filter_eq_nil_iff]
    intro field hfield
    have hremoved : ∀ name ∈ ["source", "target"],
        (!List.contains ["source", "target", "key"] name) = false := by decide
    rw [hremoved field.1 (hnames field hfield)]
    exact Bool.false_ne_true
  have hkey : fields.get? "key" = none := by
    apply Fields.get?_eq_none
    intro hmem
    obtain ⟨field, hfield, hname⟩ := List.mem_map.mp hmem
    have hother := hnames field hfield
    rw [hname] at hother
    exact absurd hother (by decide)
  simp only [addLinkEntry, Json.fields?, requiredField, hsource, htarget, hmultigraph, if_true,
    hdata, hkey]
  rfl

theorem addLinkEntries_eq {entries : List Json} (h : List.Forall₂ LinkEntry entries links)
    (hmultigraph : g.multigraph = true) : g.addLinkEntries entries =
      .ok (links.foldl (fun g link => g.addEdge (.str link.1) (.str link.2) none []) g) := by
  induction h generalizing g with
  | nil => rfl
  | cons hentry _ ih =>
      rw [addLinkEntries, addLinkEntry_eq hmultigraph hentry]
      exact ih ((multigraph_addEdge ..).trans hmultigraph)

/-- Links without keys are as many edges more. -/
theorem ends_addLinks_perm {pair : NodeId → NodeId → β} (hpair : OnEnds g.directed pair)
    (hmultigraph : g.multigraph = true) (links : List (String × String)) :
    ((links.foldl (fun g link => g.addEdge (.str link.1) (.str link.2) none []) g).links.flatMap
      (Link.ends pair)).Perm
      ((links.map fun link => pair (.str link.1) (.str link.2)) ++
        g.links.flatMap (Link.ends pair)) := by
  refine perm_foldl (fun g => g.links.flatMap (Link.ends pair))
    (fun g _ => OnEnds g.directed pair ∧ g.multigraph = true) ?_ ⟨hpair, hmultigraph⟩
  rintro g link links ⟨hpair, hmultigraph⟩
  refine ⟨⟨?_, (multigraph_addEdge ..).trans hmultigraph⟩, ?_⟩
  · rw [directed_addEdge]
    exact hpair
  · exact ends_addEdge_perm hpair hmultigraph fun _ hgiven => nomatch hgiven

theorem Describes.isNodeId (h : Describes fields directed nodes links) {node : String × Fields}
    (hnode : node ∈ nodes) {value : Json} (hvalue : Fields.get? node.2 "node_id" = some value) :
    value.IsNodeId := by
  obtain ⟨entries, -, hentries⟩ := h.nodes
  obtain ⟨entry, -, hentry⟩ := exists_entry_of_mem hentries hnode
  exact hentry.nodeId value hvalue

/-- Distinct fields of a document are distinct fields of its nodes. -/
theorem Describes.distinct (h : Describes fields directed nodes links)
    (hdocument : (Json.obj fields).Distinct) {node : String × Fields} (hnode : node ∈ nodes) :
    Fields.Distinct node.2 := by
  obtain ⟨entries, hnodes, hentries⟩ := h.nodes
  obtain ⟨entry, hmem, ⟨entryFields, rfl, -, hdata⟩, -, -⟩ := exists_entry_of_mem hentries hnode
  have hlist : (Json.arr entries).Distinct := by
    cases hdocument with
    | obj _ hfields => exact hfields _ (Fields.mem_of_get? hnodes)
  have hentry : (Json.obj entryFields).Distinct := by
    cases hlist with
    | arr hall => exact hall _ hmem
  rw [hdata]
  cases hentry with
  | obj hnames _ => exact hnames.without ["id"]

/-- The graph of a plain document collects its nodes and the ends of its links, and has
an edge for each link. -/
theorem Describes.exists_graph (h : Describes fields directed nodes links)
    (hdistinct : ∀ node ∈ nodes, Fields.Distinct node.2) :
    ∃ g, ofDocument (.obj fields) = .ok g ∧ g.directed = directed ∧
      g.Collects (nodes ++ endMentions links) ∧
      ∀ {β : Type} {pair : NodeId → NodeId → β}, OnEnds directed pair →
        (g.links.flatMap (Link.ends pair)).Perm
          (links.map fun link => pair (.str link.1) (.str link.2)) := by
  obtain ⟨hmultigraph, hdirected, ⟨nodeEntries, hnodes, hnodeEntries⟩,
    linkEntries, hlinks, hlinkEntries⟩ := h
  let bare : Graph := {
    directed := directed
    multigraph := true
    attributes := (fields.get? "graph").getD (.obj []) }
  let noded := nodes.foldl (fun g node => g.addNode (.str node.1) node.2) bare
  have hnodedDirected := foldl_keeps Graph.directed
    (fun g (node : String × Fields) => directed_addNode g (.str node.1) node.2) nodes bare
  have hnodedMultigraph := foldl_keeps Graph.multigraph
    (fun g (node : String × Fields) => multigraph_addNode g (.str node.1) node.2) nodes bare
  have hnodedLinks := foldl_keeps Graph.links
    (fun g (node : String × Fields) => links_addNode g (.str node.1) node.2) nodes bare
  let g := links.foldl (fun g link => g.addEdge (.str link.1) (.str link.2) none []) noded
  refine ⟨g, ?_, ?_, ?_, ?_⟩
  · have hempty : ({
        directed := ((fields.get? "directed").getD (.bool false)).isTruthy
        multigraph := ((fields.get? "multigraph").getD (.bool true)).isTruthy
        attributes := (fields.get? "graph").getD (.obj []) } : Graph) = bare := by
      rw [hmultigraph, hdirected]
      rfl
    simp only [ofDocument, Json.fields?, hempty, requiredField, hnodes, hlinks]
    change (bare.addNodeEntries 0 nodeEntries >>= fun g => g.addLinkEntries linkEntries) = .ok g
    rw [addNodeEntries_eq hnodeEntries]
    exact addLinkEntries_eq hlinkEntries hnodedMultigraph
  · have hkept := foldl_keeps Graph.directed
      (fun g (link : String × String) => directed_addEdge g (.str link.1) (.str link.2) none [])
      links noded
    exact hkept.trans hnodedDirected
  · have hcollects := ((collects_nil (g := bare) rfl).addNodes hdistinct).addEdges links id
      (fun _ => none) fun _ => []
    rw [List.map_id] at hcollects
    exact hcollects
  · intro β pair hpair
    have hnodedPair : OnEnds noded.directed pair := by
      rw [hnodedDirected]
      exact hpair
    have hperm := ends_addLinks_perm hnodedPair hnodedMultigraph links
    rw [hnodedLinks, List.flatMap_nil, List.append_nil] at hperm
    exact hperm

end NetworkTopology.Graph
