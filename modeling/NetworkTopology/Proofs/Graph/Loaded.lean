import NetworkTopology.Proofs.Graph.Conversion
import NetworkTopology.Proofs.Graph.Distinct
import NetworkTopology.Proofs.Graph.Names
import NetworkTopology.Proofs.Json.Reading
import NetworkTopology.Proofs.Number.Literal

/-!
# Numbers in a loaded graph

The names of the nodes are values of the document or lists of these, and their data are
fields of the document.  In a graph that is loaded from a file both are made of what the
reader makes, so the doubles are those of the format, and the integers among the data can
be written.
-/

namespace NetworkTopology

/-! ## Names in documents -/

namespace NodeId

theorem canonical_ofScalar {document : Json} (hdocument : document.Canonical) {id : NodeId}
    (h : ofScalar document = .ok id) : id.Canonical := by
  cases hdocument with
  | null =>
      cases h
      exact .null
  | bool value =>
      cases h
      exact .bool value
  | @int value _ =>
      cases h
      exact .int value
  | float hvalue =>
      cases h
      exact .float hvalue
  | str value =>
      cases h
      exact .str value
  | arr hitems => cases h
  | obj hfields => cases h

theorem canonical_ofScalars {items : List Json} (hitems : ∀ item ∈ items, item.Canonical)
    {ids : List NodeId} (h : ofScalars items = .ok ids) : ∀ id ∈ ids, id.Canonical := by
  induction items generalizing ids with
  | nil =>
      cases h
      exact List.forall_mem_nil _
  | cons item items ih =>
      rw [List.forall_mem_cons] at hitems
      rw [ofScalars, List.mapM_cons] at h
      obtain ⟨id, hid, h⟩ := Result.of_bind_ok h
      obtain ⟨rest, hrest, h⟩ := Result.of_bind_ok h
      cases h
      exact List.forall_mem_cons.mpr ⟨canonical_ofScalar hitems.1 hid, ih hitems.2 hrest⟩

theorem canonical_ofEndpoint {document : Json} (hdocument : document.Canonical) {id : NodeId}
    (h : ofEndpoint document = .ok id) : id.Canonical := by
  unfold ofEndpoint at h
  split at h
  · cases hdocument with
    | arr hitems =>
        obtain ⟨ids, hids, h⟩ := Result.of_bind_ok h
        cases h
        exact .tuple (canonical_ofScalars hitems hids)
  · exact canonical_ofScalar hdocument h

theorem canonical_ofDocuments {items : List Json}
    (hitems : ∀ item ∈ items, ∀ id, ofDocument item = .ok id → id.Canonical)
    {ids : List NodeId} (h : ofDocuments items = .ok ids) : ∀ id ∈ ids, id.Canonical := by
  induction items generalizing ids with
  | nil =>
      cases h
      exact List.forall_mem_nil _
  | cons item items ih =>
      rw [List.forall_mem_cons] at hitems
      rw [ofDocuments] at h
      obtain ⟨id, hid, h⟩ := Result.of_bind_ok h
      obtain ⟨rest, hrest, h⟩ := Result.of_bind_ok h
      cases h
      exact List.forall_mem_cons.mpr ⟨hitems.1 id hid, ih hitems.2 hrest⟩

theorem canonical_ofDocument {document : Json} (hdocument : document.Canonical) {id : NodeId}
    (h : ofDocument document = .ok id) : id.Canonical := by
  induction hdocument generalizing id with
  | null =>
      cases h
      exact .null
  | bool value =>
      cases h
      exact .bool value
  | @int value _ =>
      cases h
      exact .int value
  | float hvalue =>
      cases h
      exact .float hvalue
  | str value =>
      cases h
      exact .str value
  | arr _ ih =>
      obtain ⟨ids, hids, h⟩ := Result.of_bind_ok h
      cases h
      exact .tuple (canonical_ofDocuments (fun item hitem id => ih item hitem) hids)
  | obj _ => cases h

end NodeId

/-! ## Documents in documents -/

namespace Json.Canonical

theorem get? {fields : Fields} (h : ∀ field ∈ fields, Json.Canonical field.2) {name : String}
    {value : Json} (hvalue : fields.get? name = some value) : value.Canonical :=
  h _ (Fields.mem_of_get? hvalue)

theorem of_fields? {document : Json} (h : document.Canonical) {fields : Fields}
    (hfields : document.fields? = some fields) : ∀ field ∈ fields, Json.Canonical field.2 := by
  cases h with
  | obj hall =>
      cases hfields
      exact hall
  | _ => cases hfields

theorem of_sequence {document : Json} (h : document.Canonical) {items : List Json}
    (hitems : document.sequence = .ok items) : ∀ item ∈ items, item.Canonical := by
  intro item hitem
  cases h with
  | arr hall =>
      cases hitems
      exact hall item hitem
  | str value =>
      cases hitems
      obtain ⟨c, -, rfl⟩ := List.mem_map.mp hitem
      exact .str _
  | obj hall =>
      cases hitems
      obtain ⟨field, -, rfl⟩ := List.mem_map.mp hitem
      exact .str _
  | _ => cases hitems

end Json.Canonical

/-! ## Graphs -/

namespace Graph

/-- A graph in whose names and data the numbers are those that a reader makes. -/
def Canonical (g : Graph) : Prop :=
  ∀ node ∈ g.nodes, node.1.Canonical ∧ ∀ field ∈ node.2, field.2.Canonical

variable {g g' : Graph}

theorem Canonical.addNode (h : g.Canonical) {id : NodeId} (hid : id.Canonical) {fields : Fields}
    (hfields : ∀ field ∈ fields, field.2.Canonical) : (g.addNode id fields).Canonical := by
  unfold Graph.addNode
  split
  · intro node hnode
    obtain ⟨old, hold, rfl⟩ := List.mem_map.mp hnode
    split
    · refine ⟨(h old hold).1, fun field hfield => ?_⟩
      rcases Fields.mem_merge hfield with hnew | hkept
      · exact hfields field hnew
      · exact (h old hold).2 field hkept
    · exact h old hold
  · exact List.forall_mem_append.mpr ⟨h, List.forall_mem_singleton.mpr ⟨hid, hfields⟩⟩

theorem Canonical.addEdge (h : g.Canonical) {source target : NodeId} (hsource : source.Canonical)
    (htarget : target.Canonical) (key : Option NodeId) (data : Fields) :
    (g.addEdge source target key data).Canonical :=
  (h.addNode hsource (List.forall_mem_nil _)).addNode htarget (List.forall_mem_nil _)

theorem named_ok {id name : NodeId} (h : named id = .ok name) : name = id := by
  unfold named at h
  split at h
  · cases h
  · cases h
    rfl

theorem Canonical.addNodeEntry (h : g.Canonical) {place : Nat} {entry : Json}
    (hentry : entry.Canonical) (hadd : g.addNodeEntry place entry = .ok g') : g'.Canonical := by
  unfold Graph.addNodeEntry at hadd
  split at hadd
  · rename_i fields hfields
    obtain ⟨-, -, hadd⟩ := Result.of_bind_ok hadd
    obtain ⟨name, hname, hadd⟩ := Result.of_bind_ok hadd
    obtain ⟨id, hid, hadd⟩ := Result.of_bind_ok hadd
    cases hadd
    have hall := hentry.of_fields? hfields
    have hcanonical : name.Canonical := by
      cases hget : Fields.get? fields "id" with
      | none =>
          rw [hget] at hname
          cases hname
          exact .int _
      | some value =>
          rw [hget] at hname
          exact NodeId.canonical_ofDocument (Json.Canonical.get? hall hget) hname
    rw [named_ok hid]
    exact h.addNode hcanonical fun field hfield => hall field (List.mem_filter.mp hfield).1
  · cases hadd

theorem Canonical.addNodeEntries (h : g.Canonical) {place : Nat} {entries : List Json}
    (hentries : ∀ entry ∈ entries, entry.Canonical)
    (hadd : g.addNodeEntries place entries = .ok g') : g'.Canonical := by
  induction entries generalizing g place with
  | nil =>
      cases hadd
      exact h
  | cons entry entries ih =>
      rw [List.forall_mem_cons] at hentries
      rw [Graph.addNodeEntries] at hadd
      obtain ⟨next, hentry, hrest⟩ := Result.of_bind_ok hadd
      exact ih (h.addNodeEntry hentries.1 hentry) hentries.2 hrest

theorem requiredField_ok {fields : Fields} {name : String} {value : Json}
    (h : requiredField fields name = .ok value) : Fields.get? fields name = some value := by
  unfold requiredField at h
  split at h
  · rename_i hget
    cases h
    exact hget
  · cases h

theorem Canonical.addLinkEntry (h : g.Canonical) {entry : Json} (hentry : entry.Canonical)
    (hadd : g.addLinkEntry entry = .ok g') : g'.Canonical := by
  unfold Graph.addLinkEntry at hadd
  split at hadd
  · rename_i fields hfields
    obtain ⟨sourceField, hsourceField, hadd⟩ := Result.of_bind_ok hadd
    obtain ⟨targetField, htargetField, hadd⟩ := Result.of_bind_ok hadd
    obtain ⟨-, -, hadd⟩ := Result.of_bind_ok hadd
    obtain ⟨sourceName, hsourceName, hadd⟩ := Result.of_bind_ok hadd
    obtain ⟨source, hsource, hadd⟩ := Result.of_bind_ok hadd
    obtain ⟨targetName, htargetName, hadd⟩ := Result.of_bind_ok hadd
    obtain ⟨target, htarget, hadd⟩ := Result.of_bind_ok hadd
    obtain ⟨key, -, hadd⟩ := Result.of_bind_ok hadd
    cases hadd
    have hall := hentry.of_fields? hfields
    rw [named_ok hsource, named_ok htarget]
    exact h.addEdge
      (NodeId.canonical_ofEndpoint (.get? hall (requiredField_ok hsourceField)) hsourceName)
      (NodeId.canonical_ofEndpoint (.get? hall (requiredField_ok htargetField)) htargetName) _ _
  · cases hadd

theorem Canonical.addLinkEntries (h : g.Canonical) {entries : List Json}
    (hentries : ∀ entry ∈ entries, entry.Canonical)
    (hadd : g.addLinkEntries entries = .ok g') : g'.Canonical := by
  induction entries generalizing g with
  | nil =>
      cases hadd
      exact h
  | cons entry entries ih =>
      rw [List.forall_mem_cons] at hentries
      rw [Graph.addLinkEntries] at hadd
      obtain ⟨next, hentry, hrest⟩ := Result.of_bind_ok hadd
      exact ih (h.addLinkEntry hentries.1 hentry) hentries.2 hrest

theorem canonical_ofDocument {document : Json} (hdocument : document.Canonical)
    (h : ofDocument document = .ok g) : g.Canonical := by
  unfold ofDocument at h
  split at h
  · rename_i fields hfields
    obtain ⟨nodesField, hnodesField, h⟩ := Result.of_bind_ok h
    obtain ⟨nodes, hnodes, h⟩ := Result.of_bind_ok h
    obtain ⟨noded, hnoded, h⟩ := Result.of_bind_ok h
    obtain ⟨linksField, hlinksField, h⟩ := Result.of_bind_ok h
    obtain ⟨links, hlinks, h⟩ := Result.of_bind_ok h
    have hall := hdocument.of_fields? hfields
    have hnodesDocument := Json.Canonical.get? hall (requiredField_ok hnodesField)
    have hlinksDocument := Json.Canonical.get? hall (requiredField_ok hlinksField)
    have hbare : ∀ g : Graph, g.nodes = [] → g.Canonical := by
      intro g hnodes node hnode
      rw [hnodes] at hnode
      cases hnode
    exact ((hbare _ rfl).addNodeEntries (hnodesDocument.of_sequence hnodes) hnoded).addLinkEntries
      (hlinksDocument.of_sequence hlinks) h
  · cases h

/-- The numbers of a graph that was read from a file. -/
theorem canonical_of_read {content : String} (h : read content = .ok g) : g.Canonical := by
  obtain ⟨document, hdocument, h⟩ := Result.of_bind_ok h
  exact canonical_ofDocument (Json.canonical_of_read hdocument) h

end Graph

/-! ## Node ids -/

/-- What is read as an integer from such a document can be written. -/
theorem Json.Canonical.writable_of_toInteger {value : Json} (h : value.Canonical) {n : Int}
    (hn : value.toInteger = .ok n) : IntegerLiteral.Writable n := by
  cases h with
  | null | arr _ | obj _ => cases hn
  | bool value =>
      cases hn
      exact IntegerLiteral.writable_of_lt_ten (by cases value <;> decide)
  | int hwritable =>
      cases hn
      exact hwritable
  | @float value hvalue =>
      cases value with
      | nan => cases hn
      | infinite negative => cases hn
      | finite negative m e =>
          have hlimit : Binary64.overflowExponent.toNat ≤ IntegerLiteral.digitLimit := by decide
          have hrange := Binary64.natAbs_truncate?_lt hvalue rfl
          have hbound : ∀ {k : Nat}, k ≤ IntegerLiteral.digitLimit → 2 ^ k ≤ IntegerLiteral.bound :=
            IntegerLiteral.two_pow_le_bound
          cases hn
          exact Nat.lt_of_lt_of_le hrange (hbound hlimit)
  | str value =>
      rw [Json.toInteger] at hn
      split at hn
      · rename_i m hread
        cases hn
        exact (IntegerLiteral.read?_eq_some_iff.mp hread).writable
      · cases hn

theorem Vertex.isWritable_of_readNodeId {value nodeId : Json} (h : value.Canonical)
    (hread : readNodeId value = .ok nodeId) : nodeId.isWritable = true := by
  unfold readNodeId at hread
  split at hread
  · cases hread
    rfl
  · obtain ⟨n, hn, hread⟩ := Result.of_bind_ok hread
    cases hread
    rw [Json.isWritable]
    exact decide_eq_true (h.writable_of_toInteger hn)

/-- Every node id that is read from the data of a node can be written. -/
theorem Graph.Canonical.isWritable_nodeId {g : Graph} (h : g.Canonical) {node : NodeId × Fields}
    (hnode : node ∈ g.nodes) {nodeId : Json} (hread : Vertex.nodeIdOf node.2 = .ok nodeId) :
    nodeId.isWritable = true := by
  refine Vertex.isWritable_of_readNodeId ?_ hread
  cases hget : Fields.get? node.2 "node_id" with
  | none => exact .null
  | some value => exact Json.Canonical.get? (h node hnode).2 hget

end NetworkTopology
