import NetworkTopology.Proofs.Store.Refill
import NetworkTopology.Proofs.Topology.Refresh

/-!
# What a rebuild leaves behind

A rebuild from a graph that can be converted succeeds, unless the graph has more
edges than can be numbered.  It leaves the vertices of the graph, one for each key,
and the pairs of the graph as edges numbered from zero; of what was there before, the
namespace and the stems of the generators are all that remains.
-/

namespace NetworkTopology

variable {O : Type}

theorem Store.eq_of_entries_eq {s s' : Store} (hns : s.ns = s'.ns)
    (hentries : s.entries = s'.entries) : s = s' := by
  cases s
  cases s'
  cases hns
  cases hentries
  rfl

theorem Edge.length_row (ns stem : String) (number : Int) (pairs : List (Key × Key)) :
    (Edge.row ns stem number pairs).length = pairs.length := by
  induction pairs generalizing number with
  | nil => rfl
  | cons pair pairs ih =>
      rw [Edge.row, List.length_cons, List.length_cons, ih]

/-- Edges in a row bear their places as numbers. -/
theorem Edge.getElem?_row (ns stem : String) (number : Int) (pairs : List (Key × Key))
    (k : Nat) :
    (Edge.row ns stem number pairs)[k]? = pairs[k]?.map fun pair =>
      .between { ns, id := stem ++ Decimal.text (number + k) } pair.1 pair.2 := by
  induction pairs generalizing number k with
  | nil => rfl
  | cons pair pairs ih =>
      cases k with
      | zero =>
          rw [Edge.row, Int.natCast_zero, Int.add_zero]
          rfl
      | succ k =>
          have hnumber : number + 1 + (k : Int) = number + ((k + 1 : Nat) : Int) := by omega
          rw [Edge.row, List.getElem?_cons_succ, List.getElem?_cons_succ, ih, hnumber]

theorem Edge.map_ends_row (ns stem : String) (number : Int) (pairs : List (Key × Key)) :
    (Edge.row ns stem number pairs).map (fun e => (e.sourceKey, e.targetKey)) = pairs := by
  induction pairs generalizing number with
  | nil => rfl
  | cons pair pairs ih =>
      rw [Edge.row, List.map_cons, ih]
      rfl

/-- A rebuild from a graph that can be converted succeeds, if its edges can be
numbered. -/
theorem Observation.Quiet.exists_rebuilt {watch : Observation O} (h : watch.Quiet) {p : Nat}
    {t : Topology O} (hp : p < t.providers.length) {g : Graph} {vertices : List Vertex}
    (hvertices : Graph.toVertices t.ns g.nodes = .ok vertices)
    (hfew : g.edges.length < IntegerLiteral.bound) :
    ∃ t', t.refresh watch p (.ok g) = (t', .ok ()) ∧
      Topology.Rebuilt p vertices (g.toConnections t.ns) t t' := by
  rcases h.refresh_of_vertices hp hvertices with hdone | ⟨-, -, -, -, hmany⟩
  · exact hdone
  · exact absurd hfew (Nat.not_lt.mpr hmany)

/-- What a rebuild that succeeded was made from, and what it led to. -/
theorem Observation.Quiet.rebuilt_of_refresh {watch : Observation O} (h : watch.Quiet)
    {p : Nat} {t t' : Topology O} (hp : p < t.providers.length)
    {loaded : Except Fault Graph} (hrefresh : t.refresh watch p loaded = (t', .ok ())) :
    ∃ g vertices, loaded = .ok g ∧ Graph.toVertices t.ns g.nodes = .ok vertices ∧
      Topology.Rebuilt p vertices (g.toConnections t.ns) t t' := by
  rcases unusable_or_exists_vertices t.ns loaded with hunusable | ⟨g, vertices, rfl, hvertices⟩
  · obtain ⟨fault, hfault⟩ := Topology.refresh_of_unusable hunusable p t
    rw [hfault watch] at hrefresh
    cases hrefresh
  · refine ⟨g, vertices, rfl, hvertices, ?_⟩
    rcases h.refresh_of_vertices hp hvertices with ⟨done, hdone, hrebuilt⟩ | ⟨_, _, hfails, -⟩
    · rw [hdone] at hrefresh
      cases hrefresh
      exact hrebuilt
    · rw [hfails] at hrefresh
      cases hrefresh

namespace Topology.Rebuilt

variable {p : Nat} {vertices : List Vertex} {pairs : List (Key × Key)} {t t' : Topology O}

theorem ns_eq (h : Rebuilt p vertices pairs t t') : t'.ns = t.ns := by
  rw [Topology.ns, h.vertices_eq, Store.add_ns]
  rfl

/-- The vertices that were put, the last one under each key. -/
theorem vertices_entries (h : Rebuilt p vertices pairs t t')
    (own : ∀ v ∈ vertices, v.key.ns = t.ns) :
    t'.vertices.entries = Replica.putAll (vertices.map .vertex) [] := by
  have hoffered : (vertices.map fun v => some (Entity.vertex v)) =
      (vertices.map Entity.vertex).map some := by
    rw [List.map_map]
    rfl
  rw [h.vertices_eq, hoffered, Store.entries_add_of_own]
  · rfl
  · intro entity hentity
    obtain ⟨v, hv, rfl⟩ := List.mem_map.mp hentity
    exact own v hv

theorem vertexIds_eq (hp : p < t.providers.length) (h : Rebuilt p vertices pairs t t') :
    (t'.provider p).vertexIds = (t.provider p).vertexIds.reset := by
  rw [provider_of_set hp h.providers_eq]

theorem edgeIds_eq (hp : p < t.providers.length) (h : Rebuilt p vertices pairs t t') :
    t'.edgeIds p = (t.edgeIds p).reset.advance pairs.length := by
  rw [Topology.edgeIds, provider_of_set hp h.providers_eq]

theorem length_eq (h : Rebuilt p vertices pairs t t') :
    t'.providers.length = t.providers.length := by
  rw [h.providers_eq, List.length_set]

/-- A second rebuild from as many pairs leaves the generators where the first did. -/
theorem providers_twice (hp : p < t.providers.length) (h : Rebuilt p vertices pairs t t')
    {t'' : Topology O} (h' : Rebuilt p vertices pairs t' t'') :
    t''.providers = t'.providers := by
  have hp' : p < t'.providers.length := by
    rw [h.length_eq]
    exact hp
  have hreset : (t'.edgeIds p).reset = (t.edgeIds p).reset := by
    rw [h.edgeIds_eq hp, IdGenerator.reset, IdGenerator.advance_stem]
    rfl
  have hprovider : t'.provider p =
      { t'.provider p with
        vertexIds := (t'.provider p).vertexIds.reset
        edgeIds := (t'.edgeIds p).reset.advance pairs.length } := by
    rw [hreset, provider_of_set hp h.providers_eq]
    rfl
  rw [h'.providers_eq, ← hprovider, set_provider hp']

/-- Two rebuilds from the same vertices and pairs lead to the same content, if the
namespaces and the stems of the edge ids are the same. -/
theorem content_eq (h : Rebuilt p vertices pairs t t') {O' : Type} {q : Nat}
    {other other' : Topology O'}
    (h' : Rebuilt q vertices pairs other other') (hns : other.ns = t.ns)
    (hstem : (other.edgeIds q).stem = (t.edgeIds p).stem) :
    other'.vertices = t'.vertices ∧ other'.edges = t'.edges := by
  refine ⟨?_, Store.eq_of_entries_eq ?_ ?_⟩
  · have hclear : other.vertices.clear = t.vertices.clear := congrArg Store.empty hns
    rw [h.vertices_eq, h'.vertices_eq, hclear]
  · rw [other'.edges_ns, t'.edges_ns]
    exact (h'.ns_eq.trans hns).trans h.ns_eq.symm
  · rw [h.entries_eq, h'.entries_eq, hns, hstem]

end Topology.Rebuilt

end NetworkTopology
