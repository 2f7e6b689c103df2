import NetworkTopology.Proofs.Graph.Conversion
import NetworkTopology.Proofs.Graph.Enumeration
import NetworkTopology.Proofs.Json.Distinct
import NetworkTopology.Proofs.Occurrence

/-!
# Mentions of nodes

A graph collects what it is told of nodes that are named by texts: each text is one
node, in the order of its first mention, and each field of a node has the value that
was mentioned last.  An edge mentions its ends and says nothing else of them.  So the
vertices that the graph becomes can be read off the mentions; and it connects them as
often as its links say, where the order of two ends is kept with direction only.
-/

namespace NetworkTopology

/-- The value of a field that was mentioned last with a text. -/
def lastMentioned (mentions : List (String × Fields)) (id name : String) : Option Json :=
  (mentions.filter fun mention => mention.1 = id).reverse.findSome? fun mention =>
    Fields.get? mention.2 name

variable {β : Type} {mentions : List (String × Fields)} {id name : String} {fields : Fields}

theorem lastMentioned_concat (mentions : List (String × Fields)) (id name : String)
    (mention : String × Fields) :
    lastMentioned (mentions ++ [mention]) id name =
      if mention.1 = id then (Fields.get? mention.2 name).or (lastMentioned mentions id name)
      else lastMentioned mentions id name := by
  unfold lastMentioned
  rw [List.filter_append, List.reverse_append, List.findSome?_append, List.filter_singleton]
  by_cases h : mention.1 = id
  · rw [decide_eq_true h, if_pos h]
    cases hget : Fields.get? mention.2 name <;> simp [hget]
  · rw [decide_eq_false h, if_neg h]
    rfl

theorem exists_of_lastMentioned {value : Json}
    (h : lastMentioned mentions id name = some value) :
    ∃ mention ∈ mentions, mention.1 = id ∧ Fields.get? mention.2 name = some value := by
  obtain ⟨mention, hmem, hvalue⟩ := List.exists_of_findSome?_eq_some h
  have hfilter := List.mem_filter.mp (List.mem_reverse.mp hmem)
  exact ⟨mention, hfilter.1, of_decide_eq_true hfilter.2, hvalue⟩

theorem lastMentioned_of_not_mem (h : id ∉ mentions.map Prod.fst) :
    lastMentioned mentions id name = none := by
  cases hvalue : lastMentioned mentions id name with
  | none => rfl
  | some value =>
      obtain ⟨mention, hmem, rfl, -⟩ := exists_of_lastMentioned hvalue
      exact absurd (List.mem_map_of_mem hmem) h

/-- Mentions that say nothing of what they mention. -/
theorem lastMentioned_append_bare {bare : List (String × Fields)}
    (h : ∀ mention ∈ bare, mention.2 = []) (id name : String) :
    lastMentioned (mentions ++ bare) id name = lastMentioned mentions id name := by
  induction bare using List.reverseRecOn with
  | nil => rw [List.append_nil]
  | append_singleton bare mention ih =>
      have hbare := ih fun other hother => h other (List.mem_append_left _ hother)
      have hnothing : mention.2 = [] := h mention (List.mem_append_right _ List.mem_cons_self)
      rw [← List.append_assoc, lastMentioned_concat, hnothing, hbare]
      exact ite_self _

/-- What is mentioned with the ends of edges. -/
def endMentions (pairs : List (String × String)) : List (String × Fields) :=
  pairs.flatMap fun pair => [(pair.1, []), (pair.2, [])]

theorem bare_of_mem_endMentions {pairs : List (String × String)} {mention : String × Fields}
    (h : mention ∈ endMentions pairs) : mention.2 = [] := by
  obtain ⟨pair, -, hmem⟩ := List.mem_flatMap.mp h
  simp only [List.mem_cons, List.not_mem_nil, or_false] at hmem
  rcases hmem with rfl | rfl
  · rfl
  · rfl

theorem map_fst_endMentions (pairs : List (String × String)) :
    (endMentions pairs).map Prod.fst = pairs.flatMap fun pair => [pair.1, pair.2] :=
  List.map_flatMap

/-- A text that is mentioned once has the fields of that mention. -/
theorem lastMentioned_of_nodup (hnodup : (mentions.map Prod.fst).Nodup)
    {mention : String × Fields} (hmention : mention ∈ mentions) (name : String) :
    lastMentioned mentions mention.1 name = Fields.get? mention.2 name := by
  induction mentions using List.reverseRecOn with
  | nil => cases hmention
  | append_singleton mentions last ih =>
      rw [List.map_append, List.map_singleton, List.nodup_append] at hnodup
      obtain ⟨hnodup, -, hdisjoint⟩ := hnodup
      rw [lastMentioned_concat]
      rcases List.mem_append.mp hmention with hearlier | hlast
      · have hne : last.1 ≠ mention.1 :=
          (hdisjoint _ (List.mem_map_of_mem hearlier) _ List.mem_cons_self).symm
        rw [if_neg hne, ih hnodup hearlier]
      · have hnew : last.1 ∉ mentions.map Prod.fst :=
          fun hmem => hdisjoint _ hmem _ List.mem_cons_self rfl
        rw [List.mem_singleton.mp hlast, if_pos rfl, lastMentioned_of_not_mem hnew, Option.or_none]

/-- The vertex that mentions of a text describe. -/
def Vertex.mentioned (ns : String) (mentions : List (String × Fields)) (id : String) : Vertex :=
  let field (name : String) : Json := (lastMentioned mentions id name).getD .null
  { key := { ns, id }
    label := (lastMentioned mentions id "label").getD (.str id)
    tooltip := (field "tooltip").orElse (field "description")
    ipAddress := (field "ip_address").orElse (field "mgmt_address")
    nodeId := field "node_id" }

theorem Vertex.mentioned_append_bare {bare : List (String × Fields)}
    (h : ∀ mention ∈ bare, mention.2 = []) (ns id : String) :
    Vertex.mentioned ns (mentions ++ bare) id = Vertex.mentioned ns mentions id := by
  simp only [Vertex.mentioned, lastMentioned_append_bare h]

/-- A value that is a node id as it stands. -/
def Json.IsNodeId (value : Json) : Prop :=
  value = .null ∨ ∃ n, value = .int n

theorem Vertex.readNodeId_of_isNodeId {value : Json} (h : value.IsNodeId) :
    readNodeId value = .ok value := by
  rcases h with rfl | ⟨n, rfl⟩
  · rfl
  · rfl

namespace Graph

/-- The nodes of the graph are what the mentions say. -/
structure Collects (g : Graph) (mentions : List (String × Fields)) : Prop where
  names_eq : g.nodes.map Prod.fst = (mentions.map Prod.fst).eraseDups.map .str
  get?_eq : ∀ node ∈ g.nodes, ∀ id, node.1 = .str id → ∀ name,
    Fields.get? node.2 name = lastMentioned mentions id name

variable {g : Graph}

theorem collects_nil (h : g.nodes = []) : g.Collects [] := by
  constructor
  · rw [h]
    rfl
  · intro node hnode
    rw [h] at hnode
    cases hnode

theorem same_str_iff {text other : String} :
    (NodeId.str text).Same (.str other) ↔ text = other :=
  ⟨NodeId.str.inj, congrArg NodeId.str⟩

namespace Collects

theorem exists_text (h : g.Collects mentions) {node : NodeId × Fields} (hnode : node ∈ g.nodes) :
    ∃ id ∈ mentions.map Prod.fst, node.1 = .str id := by
  have hname : node.1 ∈ g.nodes.map Prod.fst := List.mem_map_of_mem hnode
  rw [h.names_eq] at hname
  obtain ⟨id, hid, heq⟩ := List.mem_map.mp hname
  exact ⟨id, List.mem_eraseDups.mp hid, heq.symm⟩

theorem hasNode_iff (h : g.Collects mentions) :
    g.hasNode (.str id) = true ↔ id ∈ mentions.map Prod.fst := by
  rw [Graph.hasNode_iff]
  constructor
  · rintro ⟨node, hnode, hsame⟩
    obtain ⟨text, htext, heq⟩ := h.exists_text hnode
    rw [heq, same_str_iff] at hsame
    exact hsame ▸ htext
  · intro hid
    have hname : NodeId.str id ∈ g.nodes.map Prod.fst := by
      rw [h.names_eq]
      exact List.mem_map_of_mem (List.mem_eraseDups.mpr hid)
    obtain ⟨node, hnode, heq⟩ := List.mem_map.mp hname
    refine ⟨node, hnode, ?_⟩
    rw [heq]
    exact NodeId.Same.refl _

/-- A node that is added is one more mention. -/
theorem addNode (h : g.Collects mentions) (id : String) (hdistinct : fields.Distinct) :
    (g.addNode (.str id) fields).Collects (mentions ++ [(id, fields)]) := by
  constructor
  · rw [map_fst_addNode, List.map_append, List.map_singleton, eraseDups_concat, h.names_eq]
    simp only [h.hasNode_iff]
    split
    · rfl
    · rw [List.map_append, List.map_singleton]
  · intro node hnode text htext name
    rw [lastMentioned_concat]
    unfold Graph.addNode at hnode
    split at hnode
    -- The text has a node: the fields are merged into those of this one.
    · obtain ⟨old, hold, rfl⟩ := List.mem_map.mp hnode
      split at htext
      · rename_i hsame
        have hname : old.1 = .str text := htext
        rw [hname, same_str_iff] at hsame
        rw [if_pos (hname ▸ same_str_iff.mpr hsame), if_pos hsame.symm,
          Fields.get?_merge hdistinct, h.get?_eq old hold text hname]
      · rename_i hne
        rw [htext, same_str_iff] at hne
        rw [if_neg (htext ▸ fun hsame => hne (same_str_iff.mp hsame)),
          if_neg fun heq => hne heq.symm, h.get?_eq old hold text htext]
    · rename_i hnew
      rw [h.hasNode_iff] at hnew
      rcases List.mem_append.mp hnode with hold | hmem
      · obtain ⟨other, hother, heq⟩ := h.exists_text hold
        have hne : id ≠ text := by
          rintro rfl
          rw [heq] at htext
          exact hnew (NodeId.str.inj htext ▸ hother)
        rw [if_neg hne, h.get?_eq node hold text htext]
      · rw [List.mem_singleton.mp hmem] at htext ⊢
        obtain rfl := NodeId.str.inj htext
        rw [if_pos rfl, lastMentioned_of_not_mem hnew, Option.or_none]

/-- An edge that is added mentions its ends. -/
theorem addEdge (h : g.Collects mentions) (source target : String) (key : Option NodeId)
    (data : Fields) : (g.addEdge (.str source) (.str target) key data).Collects
      (mentions ++ [(source, []), (target, [])]) := by
  have hends := (h.addNode source Fields.distinct_nil).addNode target Fields.distinct_nil
  rw [List.append_assoc] at hends
  exact ⟨hends.names_eq, hends.get?_eq⟩

theorem addNodes (h : g.Collects mentions) {more : List (String × Fields)}
    (hdistinct : ∀ mention ∈ more, Fields.Distinct mention.2) :
    (more.foldl (fun g mention => g.addNode (.str mention.1) mention.2) g).Collects
      (mentions ++ more) := by
  induction more generalizing g mentions with
  | nil =>
      rw [List.append_nil]
      exact h
  | cons mention more ih =>
      have hrest := ih (h.addNode mention.1 (hdistinct mention List.mem_cons_self))
        fun other hother => hdistinct other (List.mem_cons_of_mem _ hother)
      rw [List.append_assoc] at hrest
      exact hrest

theorem addEdges {α : Type} (h : g.Collects mentions) (items : List α)
    (ends : α → String × String) (key : α → Option NodeId) (data : α → Fields) :
    (items.foldl (fun g item =>
      g.addEdge (.str (ends item).1) (.str (ends item).2) (key item) (data item)) g).Collects
        (mentions ++ endMentions (items.map ends)) := by
  induction items generalizing g mentions with
  | nil =>
      rw [List.map_nil, endMentions, List.flatMap_nil, List.append_nil]
      exact h
  | cons item items ih =>
      have hrest := ih (h.addEdge (ends item).1 (ends item).2 (key item) (data item))
      rw [List.append_assoc] at hrest
      exact hrest

/-- A node is spelled by its text. -/
theorem spelling_eq (h : g.Collects mentions) {id : NodeId} (hid : g.hasNode id = true) :
    g.spelling id = id.identity := by
  obtain ⟨node, hnode, hsame, hspelling⟩ := exists_spelling_of_hasNode hid
  obtain ⟨text, -, htext⟩ := h.exists_text hnode
  have hidentity : node.1.identity = id.identity := hsame
  rw [hspelling, ← hidentity, htext]
  rfl

/-- The nodes become the vertices that the mentions describe. -/
theorem toVertices_eq (h : g.Collects mentions)
    (hnodeId : ∀ mention ∈ mentions, ∀ value,
      Fields.get? mention.2 "node_id" = some value → value.IsNodeId) (ns : String) :
    toVertices ns g.nodes =
      .ok ((mentions.map Prod.fst).eraseDups.map (Vertex.mentioned ns mentions)) := by
  rw [toVertices_eq_ok_iff]
  refine ⟨fun node => Vertex.mentioned ns mentions node.1.text, ?_, ?_⟩
  · have hnames : (g.nodes.map Prod.fst).map NodeId.text = (mentions.map Prod.fst).eraseDups := by
      rw [h.names_eq, List.map_map]
      exact List.map_id _
    rw [← hnames, List.map_map, List.map_map]
    rfl
  · intro node hnode
    obtain ⟨id, -, hid⟩ := h.exists_text hnode
    have hget := h.get?_eq node hnode id hid
    have hlast : ((lastMentioned mentions id "node_id").getD .null).IsNodeId := by
      cases hvalue : lastMentioned mentions id "node_id" with
      | none => exact .inl rfl
      | some value =>
          obtain ⟨mention, hmention, -, hfield⟩ := exists_of_lastMentioned hvalue
          exact hnodeId mention hmention value hfield
    change Vertex.ofNode ns node.1 node.2 = .ok (Vertex.mentioned ns mentions node.1.text)
    rw [Vertex.ofNode, hid]
    simp only [hget]
    rw [Vertex.readNodeId_of_isNodeId hlast]
    rfl

end Collects

/-! ## Edges -/

/-- What is made of the keys at the ends of an edge. -/
def attachEnds (ns : String) (attach : Key → Key → β) (source target : NodeId) : β :=
  attach (source.identity.keyIn ns) (target.identity.keyIn ns)

theorem onEnds_attachEnds {directed : Bool} {attach : Key → Key → β}
    (hattach : directed = false → ∀ source target, attach source target = attach target source)
    (ns : String) : OnEnds directed (attachEnds ns attach) := by
  constructor
  · intro source source' target target' hsource htarget
    have hidentity : source.identity = source'.identity := hsource
    have hidentity' : target.identity = target'.identity := htarget
    rw [attachEnds, attachEnds, hidentity, hidentity']
  · intro hdirected source target
    exact hattach hdirected _ _

/-- A collected graph connects its vertices as often as its links say. -/
theorem Collects.toConnections_perm (h : g.Collects mentions) (hbuilt : g.Built)
    {attach : Key → Key → β}
    (hattach : g.directed = false → ∀ source target, attach source target = attach target source)
    (ns : String) :
    ((g.toConnections ns).map fun pair => attach pair.1 pair.2).Perm
      (g.links.flatMap (Link.ends (attachEnds ns attach))) := by
  have hends : (g.toConnections ns).map (fun pair => attach pair.1 pair.2) =
      g.edges.map fun e => attachEnds ns attach e.source e.target := by
    rw [toConnections, List.map_map]
    apply List.map_congr_left
    intro e he
    obtain ⟨hsource, htarget⟩ := hbuilt.closed.hasNode_ends he
    simp only [Function.comp, h.spelling_eq hsource, h.spelling_eq htarget]
    rfl
  rw [hends]
  exact edges_perm hbuilt.closed hbuilt.distinct (onEnds_attachEnds hattach ns)

end Graph

end NetworkTopology
