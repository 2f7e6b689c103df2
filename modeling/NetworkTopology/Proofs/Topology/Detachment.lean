import NetworkTopology.Proofs.Topology.Independence
import NetworkTopology.Proofs.Topology.RoundTrip

/-!
# Removing a vertex from under listeners that call back

While listeners are told that a vertex is gone they may do to the topology whatever
they like.  The edges that go with the vertex are looked for only afterwards, and
between this search and their removal nobody has a say.
-/

namespace NetworkTopology

variable {L O : Type}

/-! ## Attached edges that can be told -/

theorem Entity.of_toEdges_ok {entities : List Entity} {es : List Edge}
    (h : toEdges entities = .ok es) : entities = es.map .edge := by
  induction entities generalizing es with
  | nil =>
      cases h
      rfl
  | cons entity entities ih =>
      obtain ⟨e, hedge, h⟩ := Result.of_bind_ok h
      obtain ⟨rest, hrest, h⟩ := Result.of_bind_ok h
      obtain rfl := Except.ok.inj h
      cases entity with
      | edge other =>
          obtain rfl := Except.ok.inj hedge
          rw [ih hrest]
          rfl
      | _ => cases hedge

theorem Store.edges_of_attached {s : Store} {vertex : Key} {attached : List Edge}
    (h : s.attached (some vertex) = .ok attached) :
    ∃ es : List Edge, s.entries = es.map .edge := by
  obtain ⟨es, hes, -⟩ := Result.of_bind_ok h
  exact ⟨es, Entity.of_toEdges_ok hes⟩

/-! ## After the listeners have been told -/

namespace Topology

variable {a : Attendance L O} {t : Topology O}

/-- Where no listener to the edges calls back, those to the vertices have no part in the
removal of edges. -/
theorem removeEdges_of_aloof (haloof : ∀ l ∈ a.registered .edges t.observers, ∀ event t,
    (a.call .edges event l t).1.unobserved = t.unobserved) (keys : List (Option Key)) :
    (t.removeEdges a.watch keys).vertices = t.vertices ∧
      (t.removeEdges a.watch keys).edges = (t.edges.remove keys).store ∧
      (t.removeEdges a.watch keys).providers = t.providers := by
  let committed : Topology O := { t with
    edges := (t.edges.remove keys).store, edges_ns := (t.edges.remove_ns keys).trans t.edges_ns }
  have htold : (t.removeEdges a.watch keys).unobserved = committed.unobserved := by
    change (committed.tellEdges a.watch (t.edges.remove keys).event?).unobserved = _
    cases (t.edges.remove keys).event? with
    | none => rfl
    | some event =>
        apply Attendance.unobserved_announceTo .edges event
        intro l hl
        exact haloof l hl event
  obtain ⟨hvertices, hedges, hproviders, -⟩ := Topology.mk.inj htold
  exact ⟨hvertices, hedges, hproviders⟩

variable {bare t' : Topology O} {vertex : Key}

/-- From what the listeners left, the edges attached to the vertex are removed. -/
theorem removeWithEdges_of_aloof (hbare : t.removeVertices a.watch [some vertex] = bare)
    (haloof : ∀ l ∈ a.registered .edges bare.observers, ∀ event t,
      (a.call .edges event l t).1.unobserved = t.unobserved)
    {es : List Edge} (hes : bare.edges.entries = es.map .edge) :
    ∃ t', (Operation.removeWithEdges [some vertex]).perform a.watch t = (t', .ok .nothing) ∧
      t'.vertices = bare.vertices ∧ t'.edges.entries = (Edge.apart vertex es).map .edge ∧
      t'.providers = bare.providers := by
  subst hbare
  let bare := t.removeVertices a.watch [some vertex]
  let keys := (es.filter fun e => e.connects vertex).map fun e => some e.key
  obtain ⟨hvertices, hedges, hproviders⟩ := removeEdges_of_aloof haloof keys
  refine ⟨bare.removeEdges a.watch keys, ?_, hvertices, ?_, hproviders⟩
  · have hattached := Store.attached_of_edges hes vertex
    rw [Operation.perform, removeAllWithEdges, removeWithEdges_of_attached hattached]
    rfl
  · rw [hedges]
    exact Store.entries_remove_attached hes vertex

/-- When a removal returns, there was nothing but edges among the edges once the
listeners had been told of the vertex. -/
theorem exists_edges_of_returned {watch : Observation O} {result : Operation.Result}
    (h : (Operation.removeWithEdges [some vertex]).perform watch t = (t', .ok result)) :
    ∃ es : List Edge,
      (t.removeVertices watch [some vertex]).edges.entries = es.map .edge := by
  cases hattached : (t.removeVertices watch [some vertex]).edges.attached (some vertex) with
  | ok attached => exact Store.edges_of_attached hattached
  | error fault =>
      simp only [Operation.perform, removeAllWithEdges, removeWithEdges, hattached] at h
      cases h

end Topology

/-- Listeners to the vertices may carry out any operations when they are told that a
vertex is gone: connect it again, store it again, remove others, fail.  The removal of
the vertex then goes on from the topology as they left it, and takes away the edges that
are attached to the vertex in there.  So none of these is left when it returns, unless
listeners to the edges call back. -/
theorem cascade_follows_listeners {a : Attendance L O} {t bare : Topology O} {vertex : Key}
    (hbare : t.removeVertices a.watch [some vertex] = bare)
    (haloof : ∀ l ∈ a.registered .edges bare.observers, ∀ event t,
      (a.call .edges event l t).1.unobserved = t.unobserved) :
    (∀ es : List Edge, bare.edges.entries = es.map .edge →
      ∃ t', (Operation.removeWithEdges [some vertex]).perform a.watch t = (t', .ok .nothing) ∧
        t'.vertices = bare.vertices ∧ t'.edges.entries = (Edge.apart vertex es).map .edge ∧
        t'.providers = bare.providers) ∧
      ∀ t', (Operation.removeWithEdges [some vertex]).perform a.watch t = (t', .ok .nothing) →
        ∀ e, .edge e ∈ t'.edges.entries → e.sourceKey ≠ vertex ∧ e.targetKey ≠ vertex := by
  constructor
  · intro es hes
    exact Topology.removeWithEdges_of_aloof hbare haloof hes
  · intro t' hperform e he
    obtain ⟨es, hes⟩ := Topology.exists_edges_of_returned hperform
    rw [hbare] at hes
    obtain ⟨_, hperform', -, hentries, -⟩ := Topology.removeWithEdges_of_aloof hbare haloof hes
    rw [hperform'] at hperform
    obtain ⟨rfl, -⟩ := Prod.mk.inj hperform
    rw [hentries] at he
    obtain ⟨e, hmem, ⟨⟩⟩ := List.mem_map.mp he
    exact (Edge.mem_apart_iff.mp hmem).2

namespace Session

/-- A listener that stores the vertex again when it is gone, connects it, removes the
other vertex, and then fails. -/
def clinging : Session where
  listeners := [{
    name := "keeper"
    steps := [
      { target := .provider 0, command := .addVertices [some (.vertex { key := ⟨"n", "b"⟩ })] },
      { target := .provider 0, command := .connect (some ⟨"n", "b"⟩) (some ⟨"n", "b"⟩) },
      { target := .provider 0, command := .connect (some ⟨"n", "c"⟩) (some ⟨"n", "a"⟩) },
      { target := .provider 0, command := .connect (some ⟨"n", "c"⟩) (some ⟨"n", "c"⟩) },
      { target := .provider 0, command := .removeWithEdges [some ⟨"n", "a"⟩] }]
    fails := true }]

/-- Vertices and edges that the listener watches over. -/
def watched : Topology Surroundings :=
  Topology.tangled.seenBy { onVertices := [.listener "keeper"] }

/-- The vertex is stored again, and yet has no edge. -/
theorem kept_vertex_has_no_edge :
    ∃ t', (Operation.removeWithEdges [some ⟨"n", "b"⟩]).perform
        (clinging.watch clinging.depth) watched = (t', .ok .nothing) ∧
      t'.vertices.ids = ["b"] ∧ t'.edges.ids = ["e2"] ∧
      ∀ e, .edge e ∈ t'.edges.entries → e.sourceKey ≠ ⟨"n", "b"⟩ ∧ e.targetKey ≠ ⟨"n", "b"⟩ := by
  let a := clinging.attendance (clinging.perform (clinging.watch 0))
  let bare := watched.removeVertices a.watch [some ⟨"n", "b"⟩]
  have hwatch : clinging.watch clinging.depth = a.watch := clinging.observe_eq_watch _
  have haloof : ∀ l ∈ a.registered .edges bare.observers, ∀ event t,
      (a.call .edges event l t).1.unobserved = t.unobserved := by
    have hnobody : a.registered .edges bare.observers = [] := by decide +kernel
    intro l hl
    rw [hnobody] at hl
    cases hl
  let loop (id : String) (vertex : Key) : Edge := .between ⟨"n", id⟩ vertex vertex
  have hedges : bare.edges.entries =
      [loop "z" ⟨"n", "b"⟩, loop "e0" ⟨"n", "b"⟩, loop "e2" ⟨"n", "c"⟩].map .edge := by
    decide +kernel
  have hids : bare.vertices.ids = ["b"] := by decide +kernel
  have hbare : watched.removeVertices a.watch [some ⟨"n", "b"⟩] = bare := rfl
  obtain ⟨hreturns, hdetached⟩ := cascade_follows_listeners hbare haloof
  rw [hwatch]
  obtain ⟨t', hperform, hvertices, hentries, -⟩ := hreturns _ hedges
  refine ⟨t', hperform, ?_, ?_, hdetached t' hperform⟩
  · rw [hvertices]
    exact hids
  · rw [Store.ids, hentries]
    decide +kernel

end Session

end NetworkTopology
