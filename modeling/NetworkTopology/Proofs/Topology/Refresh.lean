import NetworkTopology.Proofs.Graph.Conversion
import NetworkTopology.Proofs.Number.ReadBack
import NetworkTopology.Proofs.Topology.Numbering

/-!
# Rebuilding from a graph

A rebuild converts the whole graph before it touches a store.  What follows the
conversion cannot fail unless edges are so many that their numbers become too
long, so a rebuild that fails has changed nothing.
-/

namespace NetworkTopology

variable {O : Type}

open NetworkTopology.Topology

/-- There is nothing to rebuild from: no graph was loaded, or one with a node that
cannot be converted. -/
def Unusable (loaded : Except Fault Graph) : Prop :=
  (∃ fault, loaded = .error fault) ∨ ∃ g, loaded = .ok g ∧ g.Unreadable

/-- A topology after a rebuild by a provider from the vertices of a graph and the
pairs that it connects. -/
structure Topology.Rebuilt (p : Nat) (vertices : List Vertex) (pairs : List (Key × Key))
    (t t' : Topology O) : Prop where
  vertices_eq : t'.vertices =
    (t.vertices.clear.add (vertices.map fun v => some (.vertex v))).store
  entries_eq : t'.edges.entries =
    (Edge.row t.ns (t.edgeIds p).stem 0 pairs).map .edge
  providers_eq : t'.providers = t.providers.set p
    { t.provider p with
      vertexIds := (t.provider p).vertexIds.reset
      edgeIds := (t.edgeIds p).reset.advance pairs.length }
  numbered : t'.Numbered p

/-! ## Before the stores are touched -/

theorem Topology.convert_of_ok {ns : String} {g : Graph} {vertices : List Vertex}
    (h : Graph.toVertices ns g.nodes = .ok vertices) :
    convert ns g = .ok (vertices, g.toConnections ns) := by
  rw [convert, h]
  rfl

/-- Without anything to rebuild from, a rebuild fails and leaves everything as it
is, whoever watches. -/
theorem Topology.refresh_of_unusable {loaded : Except Fault Graph} (h : Unusable loaded)
    (p : Nat) (t : Topology O) :
    ∃ fault, ∀ watch : Observation O, t.refresh watch p loaded = (t, .error fault) := by
  have hconvert : ∃ fault, loaded >>= convert t.ns = .error fault := by
    rcases h with ⟨fault, rfl⟩ | ⟨g, rfl, hg⟩
    · exact ⟨fault, rfl⟩
    · obtain ⟨fault, hvertices⟩ := (Graph.toVertices_error_iff (g := g)).mpr hg
      refine ⟨fault, ?_⟩
      change convert t.ns g = .error fault
      rw [convert, hvertices]
      rfl
  obtain ⟨fault, hfault⟩ := hconvert
  refine ⟨fault, fun watch => ?_⟩
  rw [Topology.refresh, hfault]

/-- Either there is nothing to rebuild from, or the vertices of a graph. -/
theorem unusable_or_exists_vertices (ns : String) (loaded : Except Fault Graph) :
    Unusable loaded ∨
      ∃ g vertices, loaded = .ok g ∧ Graph.toVertices ns g.nodes = .ok vertices := by
  cases loaded with
  | error fault => exact .inl (.inl ⟨fault, rfl⟩)
  | ok g =>
      cases hvertices : Graph.toVertices ns g.nodes with
      | error fault =>
          exact .inl (.inr ⟨g, rfl, Graph.toVertices_error_iff.mp ⟨fault, hvertices⟩⟩)
      | ok vertices => exact .inr ⟨g, vertices, rfl, hvertices⟩

/-! ## After the conversion -/

namespace Observation.Quiet

variable {watch : Observation O} {p : Nat} {t : Topology O}

theorem vertices_refill (h : watch.Quiet) (p : Nat) (es : List (Option Entity))
    (t : Topology O) : ((t.reset watch p).addVertices watch es).vertices =
      (t.vertices.clear.add es).store := by
  have hadd := h.store_mutate .vertices (.add es) (t.reset watch p)
  rw [← h.vertices_reset p t]
  exact hadd

theorem edges_refill (h : watch.Quiet) (p : Nat) (es : List (Option Entity))
    (t : Topology O) : ((t.reset watch p).addVertices watch es).edges = t.edges.clear := by
  have hadd := h.store_mutate_of_ne .vertices .edges (by decide) (.add es) (t.reset watch p)
  exact hadd.trans (h.edges_reset p t)

theorem providers_refill (h : watch.Quiet) (p : Nat) (es : List (Option Entity))
    (t : Topology O) : ((t.reset watch p).addVertices watch es).providers =
      t.providers.set p
        { t.provider p with
          vertexIds := (t.provider p).vertexIds.reset, edgeIds := (t.edgeIds p).reset } := by
  have hadd := h.providers_mutate .vertices (.add es) (t.reset watch p)
  exact hadd.trans (h.providers_reset p t)

/-- From a graph that can be converted a rebuild succeeds, unless there are so many
edges that a number is too long; then the counter is left behind that number. -/
theorem refresh_of_vertices (h : watch.Quiet) (hp : p < t.providers.length) {g : Graph}
    {vertices : List Vertex} (hvertices : Graph.toVertices t.ns g.nodes = .ok vertices) :
    (∃ t', t.refresh watch p (.ok g) = (t', .ok ()) ∧
      Rebuilt p vertices (g.toConnections t.ns) t t') ∨
    (∃ t' fault, t.refresh watch p (.ok g) = (t', .error fault) ∧
      ¬ IntegerLiteral.Writable (t'.edgeIds p).counter ∧
      IntegerLiteral.bound ≤ g.edges.length) := by
  let entities := vertices.map fun v => some (Entity.vertex v)
  let filled := (t.reset watch p).addVertices watch entities
  have hrefresh : t.refresh watch p (.ok g) =
      filled.connectAll watch p (g.toConnections t.ns) := by
    have hconvert : (Except.ok g >>= convert t.ns : Except Fault _) =
        .ok (vertices, g.toConnections t.ns) := convert_of_ok hvertices
    rw [Topology.refresh, hconvert]
  have hfilled : filled.vertices = (t.vertices.clear.add entities).store :=
    h.vertices_refill p entities t
  have hedges : filled.edges = t.edges.clear := h.edges_refill p entities t
  have hproviders := h.providers_refill p entities t
  have hns : filled.ns = t.ns := by
    rw [Topology.ns, hfilled, Store.add_ns]
    rfl
  have hids : filled.edgeIds p = (t.edgeIds p).reset := by
    rw [Topology.edgeIds, provider_of_set hp hproviders]
  have hnumbered : filled.Numbered p := by
    rw [Topology.Numbered, hedges]
    exact IdGenerator.Covers.nil _
  have hupcoming : (filled.edgeIds p).upcoming = 0 := by
    rw [hids]
    rfl
  have hp' : p < filled.providers.length := by
    rw [hproviders, List.length_set]
    exact hp
  rw [hrefresh]
  rcases h.connectAll_numbered hp' hnumbered (by omega) (g.toConnections t.ns) with
    ⟨t', hconnect, hjoined, hnumbered'⟩ | ⟨t', fault, hconnect, hcounter, k, hk, hlong⟩
  · refine .inl ⟨t', hconnect, hjoined.vertices_eq.trans hfilled, ?_, ?_, hnumbered'⟩
    · rw [hjoined.entries_eq, hedges, hns, hupcoming, hids]
      rfl
    · rw [hjoined.providers_eq, hids, provider_of_set hp hproviders, hproviders, List.set_set]
  · refine .inr ⟨t', fault, hconnect, hcounter, ?_⟩
    rw [hupcoming, IntegerLiteral.Writable] at hlong
    rw [Graph.length_toConnections] at hk
    omega

end Observation.Quiet

/-- A rebuild without anything to rebuild from fails, changes nothing and calls no
observer, as its outcome is the same whoever watches.  If no observer calls back,
that is the only way to fail from a graph whose edges can all be numbered. -/
theorem failed_refresh_changes_nothing (p : Nat) (t : Topology O)
    (loaded : Except Fault Graph) :
    (Unusable loaded →
      ∃ fault, ∀ watch : Observation O, t.refresh watch p loaded = (t, .error fault)) ∧
    (p < t.providers.length →
      (∀ g, loaded = .ok g → g.edges.length < IntegerLiteral.bound) →
      ∀ watch : Observation O, watch.Quiet →
      ∀ t' fault, t.refresh watch p loaded = (t', .error fault) →
        t' = t ∧ Unusable loaded) := by
  refine ⟨fun h => refresh_of_unusable h p t, ?_⟩
  intro hp hfew watch hquiet t' fault hfails
  rcases unusable_or_exists_vertices t.ns loaded with h | ⟨g, vertices, rfl, hvertices⟩
  · obtain ⟨other, hother⟩ := refresh_of_unusable h p t
    rw [hother watch] at hfails
    exact ⟨(congrArg Prod.fst hfails).symm, h⟩
  · have hedges := hfew g rfl
    rcases hquiet.refresh_of_vertices hp hvertices with
      ⟨after, hok, -⟩ | ⟨after, other, -, -, hmany⟩
    · rw [hok] at hfails
      cases hfails
    · exact absurd hedges (Nat.not_lt.mpr hmany)

/-- An empty topology with one provider. -/
def Topology.provided : Topology Unit :=
  .blank [{ vertexIds := { stem := "v" }, edgeIds := { stem := "e" } }] ()

/-- Two linked nodes, the second with a `node_id`. -/
def Graph.linked (nodeId : Json) : Graph :=
  { nodes := [(.str "a", []), (.str "b", [("node_id", nodeId)])]
    links := [{ source := .str "a", target := .str "b", parallel := [(.int 0, [])] }] }

/-- Two nodes, the second with a name of more digits than can be written. -/
def Graph.unwritten : Graph :=
  { nodes := [(.str "a", []), (.int IntegerLiteral.bound, [])] }

/-- A rebuild fails by the second of two nodes, by its `node_id` or its name, and not by
a `node_id` that is an integer. -/
theorem failed_refresh_from_linked :
    (∃ fault, ∀ watch : Observation Unit,
      provided.refresh watch 0 (.ok (.linked (.arr []))) = (provided, .error fault)) ∧
    (∃ fault, ∀ watch : Observation Unit,
      provided.refresh watch 0 (.ok .unwritten) = (provided, .error fault)) ∧
    ∀ fault, (provided.refresh (.silent Unit) 0 (.ok (.linked (.int 7)))).2 ≠ .error fault := by
  refine ⟨(failed_refresh_changes_nothing 0 provided _).1 ?_,
    (failed_refresh_changes_nothing 0 provided _).1 ?_, ?_⟩
  · exact .inr ⟨_, rfl, (.str "b", [("node_id", .arr [])]), by simp [Graph.linked], .inr ⟨_, rfl⟩⟩
  · refine .inr ⟨_, rfl, (.int IntegerLiteral.bound, []),
      List.mem_cons_of_mem _ List.mem_cons_self, .inl ?_⟩
    rw [NodeId.isWritable]
    exact decide_eq_false IntegerLiteral.not_writable_bound
  · intro fault hfault
    have hfew : ∀ g, Except.ok (Graph.linked (.int 7)) = (.ok g : Except Fault Graph) →
        g.edges.length < IntegerLiteral.bound := by
      rintro g ⟨⟩
      exact Nat.lt_of_lt_of_le (by decide) IntegerLiteral.ten_le_bound
    obtain ⟨-, hunusable⟩ := (failed_refresh_changes_nothing 0 provided _).2 (by decide) hfew
      (.silent Unit) (Observation.silent_quiet Unit) _ fault (Prod.ext rfl hfault)
    rcases hunusable with ⟨other, hother⟩ | ⟨g, hg, node, hnode, hrefused⟩
    · cases hother
    · cases hg
      rcases List.mem_cons.mp hnode with rfl | hnode
      · rcases hrefused with htext | ⟨other, hother⟩
        · cases htext
        · cases hother
      · rw [List.mem_singleton.mp hnode] at hrefused
        rcases hrefused with htext | ⟨other, hother⟩
        · cases htext
        · cases hother

end NetworkTopology
