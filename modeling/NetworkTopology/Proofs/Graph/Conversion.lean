import NetworkTopology.Graph.Conversion
import NetworkTopology.Proofs.Result

/-!
# Graphs that can be converted

The nodes of a graph become vertices one by one.  What can be in the way is the text of
a node, with an integer of too many digits, and the field `node_id`.  Each edge is
converted without fail, and in a graph whose links join its nodes it connects vertices
that were converted, too.
-/

namespace NetworkTopology

/-- The key of the vertex that a node becomes. -/
def NodeId.keyIn (ns : String) (id : NodeId) : Key :=
  { ns, id := id.text }

theorem NodeId.write_eq_ok_iff {id : NodeId} {text : String} :
    id.write = .ok text ↔ id.isWritable = true ∧ id.text = text := by
  rw [NodeId.write]
  split <;> simp_all

theorem NodeId.write_eq_error_iff {id : NodeId} {fault : Fault} :
    id.write = .error fault ↔ id.isWritable = false ∧ .integerTooLong = fault := by
  rw [NodeId.write]
  split <;> simp_all

/-! ## One node -/

namespace Vertex

/-- The node id that is read from the data of a node. -/
def nodeIdOf (data : Fields) : Except Fault Json :=
  readNodeId ((Fields.get? data "node_id").getD .null)

/-- A node is refused for its text, which cannot be written, or else for its `node_id`. -/
theorem ofNode_eq_error_iff {ns : String} {id : NodeId} {data : Fields} {fault : Fault} :
    ofNode ns id data = .error fault ↔
      id.write = .error fault ∨ id.isWritable = true ∧ nodeIdOf data = .error fault := by
  constructor
  · intro h
    rcases Result.of_bind_error h with htext | ⟨text, htext, h⟩
    · exact .inl htext
    · rcases Result.of_bind_error h with hread | ⟨nodeId, hread, h⟩
      · exact .inr ⟨(NodeId.write_eq_ok_iff.mp htext).1, hread⟩
      · cases h
  · rintro (htext | ⟨hwritable, hread⟩)
    · rw [ofNode, htext]
      rfl
    · rw [ofNode, NodeId.write_eq_ok_iff.mpr ⟨hwritable, rfl⟩]
      change (nodeIdOf data >>= _) = _
      rw [hread]
      rfl

/-- Some fault refuses a node exactly if its text or its `node_id` is in the way. -/
theorem exists_ofNode_error_iff {ns : String} {id : NodeId} {data : Fields} :
    (∃ fault, ofNode ns id data = .error fault) ↔
      id.isWritable = false ∨ ∃ fault, nodeIdOf data = .error fault := by
  constructor
  · rintro ⟨fault, h⟩
    rcases ofNode_eq_error_iff.mp h with htext | ⟨-, hread⟩
    · exact .inl (NodeId.write_eq_error_iff.mp htext).1
    · exact .inr ⟨fault, hread⟩
  · rintro h
    cases hwritable : id.isWritable with
    | false =>
        have htext := NodeId.write_eq_error_iff.mpr ⟨hwritable, rfl⟩
        exact ⟨_, ofNode_eq_error_iff.mpr (.inl htext)⟩
    | true =>
        rw [hwritable] at h
        obtain ⟨fault, hread⟩ := h.resolve_left Bool.noConfusion
        exact ⟨fault, ofNode_eq_error_iff.mpr (.inr ⟨hwritable, hread⟩)⟩

theorem key_ofNode {ns : String} {id : NodeId} {data : Fields} {v : Vertex}
    (h : ofNode ns id data = .ok v) : v.key = id.keyIn ns := by
  obtain ⟨text, htext, h⟩ := Result.of_bind_ok h
  obtain ⟨nodeId, -, hv⟩ := Result.of_bind_ok h
  obtain ⟨-, rfl⟩ := NodeId.write_eq_ok_iff.mp htext
  cases hv
  rfl

theorem nodeIdOf_of_ofNode {ns : String} {id : NodeId} {data : Fields} {v : Vertex}
    (h : ofNode ns id data = .ok v) : nodeIdOf data = .ok v.nodeId := by
  obtain ⟨text, -, h⟩ := Result.of_bind_ok h
  obtain ⟨nodeId, hread, hv⟩ := Result.of_bind_ok h
  cases hv
  exact hread

end Vertex

/-! ## All nodes -/

namespace Graph

/-- The graph has a node, wherever it stands, whose text cannot be written or whose `node_id` is
no integer. -/
def Unreadable (g : Graph) : Prop :=
  ∃ node ∈ g.nodes, node.1.isWritable = false ∨ ∃ fault, Vertex.nodeIdOf node.2 = .error fault

theorem exists_of_toVertices_error {ns : String} {nodes : List (NodeId × Fields)}
    {fault : Fault} (h : toVertices ns nodes = .error fault) :
    ∃ node ∈ nodes, Vertex.ofNode ns node.1 node.2 = .error fault := by
  induction nodes with
  | nil => cases h
  | cons node nodes ih =>
      rw [toVertices] at h
      rcases Result.of_bind_error h with hnode | ⟨v, -, h⟩
      · exact ⟨node, List.mem_cons_self, hnode⟩
      · rcases Result.of_bind_error h with hrest | ⟨vs, -, h⟩
        · obtain ⟨other, hmem, hfault⟩ := ih hrest
          exact ⟨other, List.mem_cons_of_mem node hmem, hfault⟩
        · cases h

/-- Vertices come out only if all nodes can be converted, and they have the keys
of the nodes. -/
theorem of_toVertices_ok {ns : String} {nodes : List (NodeId × Fields)} {vs : List Vertex}
    (h : toVertices ns nodes = .ok vs) :
    vs.map Vertex.key = nodes.map (fun node => node.1.keyIn ns) ∧
      ∀ node ∈ nodes, ∃ v, Vertex.ofNode ns node.1 node.2 = .ok v := by
  induction nodes generalizing vs with
  | nil =>
      cases h
      exact ⟨rfl, fun _ hmem => absurd hmem List.not_mem_nil⟩
  | cons node nodes ih =>
      rw [toVertices] at h
      obtain ⟨v, hnode, h⟩ := Result.of_bind_ok h
      obtain ⟨rest, hrest, h⟩ := Result.of_bind_ok h
      cases h
      obtain ⟨hkeys, hread⟩ := ih hrest
      refine ⟨?_, ?_⟩
      · rw [List.map_cons, List.map_cons, Vertex.key_ofNode hnode, hkeys]
      · intro other hmem
        rcases List.mem_cons.mp hmem with rfl | hmem
        · exact ⟨v, hnode⟩
        · exact hread other hmem

/-- A graph can be converted unless it has a node that cannot. -/
theorem toVertices_error_iff {ns : String} {g : Graph} :
    (∃ fault, toVertices ns g.nodes = .error fault) ↔ g.Unreadable := by
  constructor
  · rintro ⟨fault, h⟩
    obtain ⟨node, hmem, hfault⟩ := exists_of_toVertices_error h
    exact ⟨node, hmem, Vertex.exists_ofNode_error_iff.mp ⟨fault, hfault⟩⟩
  · rintro ⟨node, hmem, hrefused⟩
    obtain ⟨fault, hfault⟩ : ∃ fault, Vertex.ofNode ns node.1 node.2 = .error fault :=
      Vertex.exists_ofNode_error_iff.mpr hrefused
    cases h : toVertices ns g.nodes with
    | error other => exact ⟨other, rfl⟩
    | ok vs =>
        obtain ⟨v, hv⟩ := (of_toVertices_ok h).2 node hmem
        rw [hfault] at hv
        cases hv

theorem toVertices_eq_ok_iff {ns : String} {nodes : List (NodeId × Fields)}
    {vs : List Vertex} :
    toVertices ns nodes = .ok vs ↔ ∃ become : NodeId × Fields → Vertex,
      vs = nodes.map become ∧
        ∀ node ∈ nodes, Vertex.ofNode ns node.1 node.2 = .ok (become node) := by
  constructor
  · intro h
    refine ⟨fun node => (Vertex.ofNode ns node.1 node.2).toOption.getD default, ?_⟩
    induction nodes generalizing vs with
    | nil =>
        cases h
        exact ⟨rfl, fun _ hmem => absurd hmem List.not_mem_nil⟩
    | cons node nodes ih =>
        rw [toVertices] at h
        obtain ⟨v, hnode, h⟩ := Result.of_bind_ok h
        obtain ⟨rest, hrest, h⟩ := Result.of_bind_ok h
        cases h
        obtain ⟨hmap, hall⟩ := ih hrest
        have hhead : Vertex.ofNode ns node.1 node.2 =
            .ok ((Vertex.ofNode ns node.1 node.2).toOption.getD default) := by
          rw [hnode]
          rfl
        refine ⟨?_, ?_⟩
        · rw [List.map_cons, ← hmap, hnode]
          rfl
        · intro other hmem
          rcases List.mem_cons.mp hmem with rfl | hmem
          · exact hhead
          · exact hall other hmem
  · rintro ⟨become, rfl, hall⟩
    induction nodes with
    | nil => rfl
    | cons node nodes ih =>
        rw [toVertices, hall node List.mem_cons_self,
          ih fun other hmem => hall other (List.mem_cons_of_mem node hmem)]
        rfl

@[simp] theorem length_toConnections (g : Graph) (ns : String) :
    (g.toConnections ns).length = g.edges.length :=
  List.length_map _

end Graph

end NetworkTopology
