import NetworkTopology.Proofs.IdGenerator.Step
import NetworkTopology.Proofs.Store.Content
import NetworkTopology.Proofs.Topology.Refresh

/-!
# Connections and the edges that are there

A provider counts for itself, over stores that others fill, too: its counter may have
fallen behind, and an id that it comes to may be in use.  The id that a connection
takes is nevertheless free at the moment at which its edge is stored, as nothing
happens in between.  This holds in every topology and under all observers, hence at
every point of any run and for connections made from inside a notification.
-/

namespace NetworkTopology

variable {O : Type}

namespace Topology

/-- An edge went to the end under an id that was not in use, and neither the vertices
nor another edge nor the observers have changed. -/
structure Appended (e : Edge) (t stored : Topology O) : Prop where
  new : e.key.id ∉ t.edges.ids
  vertices_eq : stored.vertices = t.vertices
  entries_eq : stored.edges.entries = t.edges.entries ++ [.edge e]
  observers_eq : stored.observers = t.observers

variable {p : Nat} {t : Topology O}

theorem not_mem_of_nextEdgeId {id : String} (h : (t.nextEdgeId p).2 = .ok id) :
    id ∉ t.edges.ids := by
  obtain ⟨-, -, -, hfree, -⟩ := IdGenerator.next_ok h
  rw [← Store.containsId_iff, Except.ok.inj hfree]
  exact Bool.false_ne_true

/-- An edge under a new id is stored before its addition is told. -/
theorem addEdges_of_new {e : Edge} (own : e.key.ns = t.ns) (new : e.key.id ∉ t.edges.ids)
    (watch : Observation O) :
    ∃ stored, Appended e t stored ∧ t.addEdges watch [some (.edge e)] =
      watch.onEdges { ns := t.ns, added := [.edge e] } stored := by
  have hown : (Entity.edge e).key.ns = t.edges.ns := own.trans t.edges_ns.symm
  have hnew : t.edges.contains (Entity.edge e).key = false := by
    have hkey : (Entity.edge e).key = { ns := t.edges.ns, id := e.key.id } := by
      rw [← hown]
      rfl
    rw [hkey, ← Store.containsId, ← Bool.not_eq_true, Store.containsId_iff]
    exact new
  have hadd := Store.add_singleton_of_new hown hnew
  have hrefused : (t.edges.add [some (.edge e)]).refused = [] := by rw [hadd]
  have hevent : (t.edges.add [some (.edge e)]).event? =
      some { ns := t.ns, added := [.edge e] } := by
    rw [Store.Intake.event?, Store.add_ns, t.edges_ns, hadd]
    rfl
  refine ⟨{ t with
      edges := (t.edges.add [some (.edge e)]).store
      edges_ns := (t.edges.add_ns _).trans t.edges_ns }, ?_, ?_⟩
  · exact ⟨new, rfl, Store.entries_add_singleton_of_new hown hnew, rfl⟩
  · simp only [addEdges]
    rw [hrefused, hevent]
    rfl

end Topology

open NetworkTopology.Topology

/-- A connection of two vertices appends one edge under an id that is not in use, and
tells of it as an addition of that edge; or it fails, and both stores stay as they
are.  Without one of the ends there is a warning and nothing else. -/
theorem connect_never_overwrites (watch : Observation O) (p : Nat) (t : Topology O) :
    (∀ source target : Key,
      (∃ e stored event, Appended e t stored ∧ e.sourceKey = source ∧ e.targetKey = target ∧
        event = { ns := t.ns, added := [.edge e] } ∧ event.kind = .added ∧
        t.connect watch p (some source) (some target) =
          (watch.onEdges event stored, .ok (some e))) ∨
      (∃ fault t', t.connect watch p (some source) (some target) = (t', .error fault) ∧
        t'.vertices = t.vertices ∧ t'.edges = t.edges ∧ t'.observers = t.observers)) ∧
    ∀ source target : Option Key, source = none ∨ target = none → ∃ warning,
      t.connect watch p source target =
        ({ t with observers := watch.onWarning warning t.observers }, .ok none) := by
  refine ⟨?_, fun source target h => connect_of_missing h watch p t⟩
  intro source target
  have hframe : (t.nextEdgeId p).1.vertices = t.vertices ∧
      (t.nextEdgeId p).1.edges = t.edges ∧ (t.nextEdgeId p).1.observers = t.observers :=
    ⟨rfl, rfl, rfl⟩
  cases hnext : t.nextEdgeId p with
  | mk counted result =>
      rw [hnext] at hframe
      obtain ⟨hvertices, hedges, hobservers⟩ := hframe
      cases result with
      | error fault =>
          refine .inr ⟨fault, counted, ?_, hvertices, hedges, hobservers⟩
          rw [connect, hnext]
      | ok id =>
          have hns : counted.ns = t.ns := congrArg Store.ns hvertices
          let e := Edge.between { ns := counted.ns, id } source target
          have hnew : e.key.id ∉ counted.edges.ids := by
            rw [hedges]
            exact not_mem_of_nextEdgeId (congrArg Prod.snd hnext)
          obtain ⟨stored, happended, hadd⟩ := addEdges_of_new (e := e) rfl hnew watch
          refine .inl ⟨e, stored, _, ?_, rfl, rfl, rfl, rfl, ?_⟩
          · exact ⟨hedges ▸ hnew, happended.vertices_eq.trans hvertices,
              hedges ▸ happended.entries_eq, happended.observers_eq.trans hobservers⟩
          · rw [connect, hnext, ← hns]
            exact congrArg (fun t' => (t', Except.ok (some e))) hadd

/-- Two providers of one prefix over an edge `e0` that neither of them made; the second
one has started, and its counter is behind. -/
def Topology.overtaken : Topology Unit :=
  (Topology.blank
    [{ vertexIds := { stem := "v" }, edgeIds := { stem := "e" } },
      { vertexIds := { stem := "v" }, edgeIds := { stem := "e", initialized := true } }]
    ()).addEdges (.silent Unit) [some (.edgeRef ⟨"n", "e0"⟩)]

/-- A provider whose counter is behind passes over the id in use. -/
theorem overtaken_connects_under_next_id :
    (∃ e stored, Appended e overtaken stored ∧ e.key = ⟨"n", "e1"⟩ ∧
      overtaken.connect (.silent Unit) 1 (some ⟨"n", "a"⟩) (some ⟨"n", "a"⟩) =
        (stored, .ok (some e))) ∧
    overtaken.connect (.silent Unit) 1 none (some ⟨"n", "a"⟩) = (overtaken, .ok none) := by
  obtain ⟨hconnect, hmissing⟩ := connect_never_overwrites (.silent Unit) 1 overtaken
  refine ⟨?_, ?_⟩
  · have hid : ((overtaken.connect (.silent Unit) 1 (some ⟨"n", "a"⟩)
        (some ⟨"n", "a"⟩)).2.toOption.bind id).map Edge.key = some ⟨"n", "e1"⟩ := by
      decide +kernel
    rcases hconnect ⟨"n", "a"⟩ ⟨"n", "a"⟩ with
      ⟨e, stored, event, happended, -, -, -, -, heq⟩ | ⟨fault, t', hfails, -⟩
    · rw [heq] at hid
      exact ⟨e, stored, happended, Option.some.inj hid, heq⟩
    · rw [hfails] at hid
      cases hid
  · obtain ⟨warning, hwarned⟩ := hmissing none (some ⟨"n", "a"⟩) (.inl rfl)
    exact hwarned

end NetworkTopology
