import NetworkTopology.Proofs.Store.Listing
import NetworkTopology.Topology.Provider
import NetworkTopology.Settings.Basic

/-!
# Making a provider

A provider can be made of any stores and any namespace asked for, as long as they name one
namespace.  Nothing else stands in the way: a store that has to be made is made of a namespace
that is not empty.
-/

namespace NetworkTopology

/-- Two namespaces where there should be one. -/
inductive Fault.IsMismatch : Fault → Prop
  | differ {vertices edges : String} (ne : vertices ≠ edges) :
      IsMismatch (.namespacesDiffer vertices edges)
  | refused {served asked : String} (ne : served ≠ asked) :
      IsMismatch (.namespaceRefused served asked)

theorem Store.make_of_ne_empty {kind : StoreKind} {ns : String} (h : ns ≠ "") :
    make kind ns = .ok (empty ns) := by
  rw [make, String.isEmpty_eq_false_iff.mpr h]
  rfl

namespace Provider

variable {O : Type} {asked : Option String} {vertices edges : Option Store}
  {configured ns : String} {observers : O}

/-- A provider is given a namespace when it is asked for, unless it is empty, and with each
store. -/
inductive Given (asked : Option String) (vertices edges : Option Store) : String → Prop
  | byName {ns : String} (h : asked = some ns) (ne : ns ≠ "") : Given asked vertices edges ns
  | byVertices {s : Store} (h : vertices = some s) : Given asked vertices edges s.ns
  | byEdges {s : Store} (h : edges = some s) : Given asked vertices edges s.ns

/-- One namespace at most is given. -/
def Agree (asked : Option String) (vertices edges : Option Store) : Prop :=
  ∀ ns ns', Given asked vertices edges ns → Given asked vertices edges ns' → ns = ns'

/-! ## The chosen namespace -/

theorem chooseNamespace_of_asked (h : ns ≠ "") :
    chooseNamespace (some ns) vertices edges configured = ns := by
  have hkept : (some ns).filter (fun ns => !ns.isEmpty) = some ns := by
    apply Option.filter_some_pos
    rw [String.isEmpty_eq_false_iff.mpr h]
    rfl
  simp only [chooseNamespace, hkept]

/-- The chosen namespace is given, unless none is. -/
theorem chooseNamespace_cases (asked : Option String) (vertices edges : Option Store)
    (configured : String) :
    Given asked vertices edges (chooseNamespace asked vertices edges configured) ∨
      (∀ ns, ¬ Given asked vertices edges ns) ∧
        chooseNamespace asked vertices edges configured = configured := by
  by_cases hasked : ∃ ns, asked = some ns ∧ ns ≠ ""
  · obtain ⟨ns, rfl, hne⟩ := hasked
    rw [chooseNamespace_of_asked hne]
    exact .inl (.byName rfl hne)
  · have hnothing : asked.filter (fun ns => !ns.isEmpty) = none := by
      rw [Option.filter_eq_none_iff]
      intro ns hns hkept
      refine hasked ⟨ns, hns, ?_⟩
      rintro rfl
      cases hkept
    simp only [chooseNamespace, hnothing]
    rcases vertices with _ | s
    · rcases edges with _ | s
      · refine .inr ⟨?_, rfl⟩
        intro ns hgiven
        cases hgiven with
        | byName h ne => exact hasked ⟨ns, h, ne⟩
        | byVertices h => cases h
        | byEdges h => cases h
      · exact .inl (.byEdges rfl)
    · exact .inl (.byVertices rfl)

/-- What is given agrees exactly when all of it is the chosen namespace. -/
theorem agree_iff (configured : String) : Agree asked vertices edges ↔
    ∀ ns, Given asked vertices edges ns →
      ns = chooseNamespace asked vertices edges configured := by
  constructor
  · intro h ns hns
    rcases chooseNamespace_cases asked vertices edges configured with hchosen | ⟨hnone, -⟩
    · exact h _ _ hns hchosen
    · exact absurd hns (hnone ns)
  · intro h ns ns' hns hns'
    rw [h ns hns, h ns' hns']

theorem chooseNamespace_ne_empty (hvertices : ∀ s, vertices = some s → s.ns ≠ "")
    (hedges : ∀ s, edges = some s → s.ns ≠ "") (hconfigured : configured ≠ "") :
    chooseNamespace asked vertices edges configured ≠ "" := by
  rcases chooseNamespace_cases asked vertices edges configured with hchosen | ⟨-, heq⟩
  · generalize chooseNamespace asked vertices edges configured = ns at hchosen
    cases hchosen with
    | byName _ ne => exact ne
    | byVertices h => exact hvertices _ h
    | byEdges h => exact hedges _ h
  · rw [heq]
    exact hconfigured

/-! ## The stores -/

/-- A provider of a namespace over two stores, if they serve it. -/
def join (ns : String) (vertices edges : Store) (observers : O) : Except Fault (Topology O) :=
  if h : edges.ns = vertices.ns then
    if vertices.ns = ns then .ok { vertices, edges, edges_ns := h, observers }
    else .error (.namespaceRefused vertices.ns ns)
  else .error (.namespacesDiffer vertices.ns edges.ns)

/-- A namespace that is not empty gives the stores that are missing. -/
theorem assemble_eq_join (h : chooseNamespace asked vertices edges configured = ns)
    (hne : ns ≠ "") :
    assemble asked vertices edges configured observers =
      join ns (vertices.getD (.empty ns)) (edges.getD (.empty ns)) observers := by
  have hmake : ∀ kind, Store.make kind ns = .ok (.empty ns) :=
    fun kind => Store.make_of_ne_empty hne
  unfold assemble
  rw [h]
  cases vertices with
  | none =>
      cases edges with
      | none =>
          simp only [hmake]
          rfl
      | some s =>
          simp only [hmake]
          rfl
  | some s =>
      cases edges with
      | none =>
          simp only [hmake]
          rfl
      | some s' => rfl

/-- The stores at hand serve the chosen namespace exactly when what is given agrees. -/
theorem serves_iff (h : chooseNamespace asked vertices edges configured = ns) :
    Agree asked vertices edges ↔
      (vertices.getD (.empty ns)).ns = ns ∧ (edges.getD (.empty ns)).ns = ns := by
  rw [agree_iff configured, h]
  constructor
  · intro hagree
    constructor
    · cases vertices with
      | none => rfl
      | some s => exact hagree s.ns (.byVertices rfl)
    · cases edges with
      | none => rfl
      | some s => exact hagree s.ns (.byEdges rfl)
  · rintro ⟨hvertices, hedges⟩ given hgiven
    cases hgiven with
    | byName hasked hne =>
        subst hasked
        rw [← h, chooseNamespace_of_asked hne]
    | byVertices hgiven =>
        subst hgiven
        exact hvertices
    | byEdges hgiven =>
        subst hgiven
        exact hedges

section

variable {vertices edges : Store}

theorem join_of_serves (hvertices : vertices.ns = ns) (hedges : edges.ns = ns)
    (observers : O) : ∃ t, join ns vertices edges observers = .ok t ∧
      t.vertices = vertices ∧ t.edges = edges ∧ t.observers = observers := by
  have hns : edges.ns = vertices.ns := hedges.trans hvertices.symm
  rw [join, dif_pos hns, if_pos hvertices]
  exact ⟨_, rfl, rfl, rfl, rfl⟩

theorem join_of_not_serves (h : ¬ (vertices.ns = ns ∧ edges.ns = ns)) (observers : O) :
    ∃ fault, join ns vertices edges observers = .error fault ∧ fault.IsMismatch := by
  by_cases hns : edges.ns = vertices.ns
  · have hvertices : vertices.ns ≠ ns := by
      intro heq
      exact h ⟨heq, hns.trans heq⟩
    rw [join, dif_pos hns, if_neg hvertices]
    exact ⟨_, rfl, .refused hvertices⟩
  · rw [join, dif_neg hns]
    exact ⟨_, rfl, .differ (Ne.symm hns)⟩

end

/-- A topology of the one namespace that is given, or else of the configured one, over the
stores that are given and empty ones in place of others.  A store is what it holds: that a
store is used means that its namespace, its entities and their order are found again.  Who
listens to the stores is told by the observers, which stay as they are. -/
structure MadeOf (asked : Option String) (vertices edges : Option Store) (configured : String)
    (observers : O) (t : Topology O) : Prop where
  vertices_ns : t.vertices.ns = t.ns
  edges_ns : t.edges.ns = t.ns
  ns_eq : ∀ ns, Given asked vertices edges ns → t.ns = ns
  ns_eq_configured : (∀ ns, ¬ Given asked vertices edges ns) → t.ns = configured
  vertices_eq : ∀ s, vertices = some s → t.vertices = s
  edges_eq : ∀ s, edges = some s → t.edges = s
  vertices_empty : vertices = none → t.vertices = .empty t.ns
  edges_empty : edges = none → t.edges = .empty t.ns
  observers_eq : t.observers = observers

theorem madeOf_of_serves {t : Topology O}
    (hchosen : chooseNamespace asked vertices edges configured = t.ns)
    (hagree : Agree asked vertices edges) (hvertices : t.vertices = vertices.getD (.empty t.ns))
    (hedges : t.edges = edges.getD (.empty t.ns)) (hobservers : t.observers = observers) :
    MadeOf asked vertices edges configured observers t where
  vertices_ns := rfl
  edges_ns := t.edges_ns
  ns_eq := by
    intro ns hgiven
    rw [(agree_iff configured).mp hagree ns hgiven, hchosen]
  ns_eq_configured := by
    intro hnone
    rcases chooseNamespace_cases asked vertices edges configured with hgiven | ⟨-, heq⟩
    · exact absurd hgiven (hnone _)
    · rw [← hchosen, heq]
  vertices_eq := by
    rintro s rfl
    exact hvertices
  edges_eq := by
    rintro s rfl
    exact hedges
  vertices_empty := by
    rintro rfl
    exact hvertices
  edges_empty := by
    rintro rfl
    exact hedges
  observers_eq := hobservers

/-- A provider can be made exactly when one namespace at most is given.  Otherwise the
namespaces are said to differ, and never that a store has none. -/
theorem made_iff_namespaces_agree (hvertices : ∀ s, vertices = some s →
      s.Reached .vertices fun _ => True)
    (hedges : ∀ s, edges = some s → s.Reached .edges fun _ => True)
    (asked : Option String) (settings : Settings) (observers : O) :
    (Agree asked vertices edges →
      ∃ t, assemble asked vertices edges settings.topology.ns observers = .ok t ∧
        MadeOf asked vertices edges settings.topology.ns observers t) ∧
    (¬ Agree asked vertices edges →
      ∃ fault, assemble asked vertices edges settings.topology.ns observers = .error fault ∧
        fault.IsMismatch) := by
  obtain ⟨ns, hchosen⟩ : ∃ ns,
      chooseNamespace asked vertices edges settings.topology.ns = ns := ⟨_, rfl⟩
  have hne : ns ≠ "" := by
    rw [← hchosen]
    apply chooseNamespace_ne_empty
    · exact fun s hs => (hvertices s hs).ns_ne_empty
    · exact fun s hs => (hedges s hs).ns_ne_empty
    · exact settings.topology.ns_ne
  rw [assemble_eq_join hchosen hne, serves_iff hchosen]
  constructor
  · rintro ⟨hservesVertices, hservesEdges⟩
    obtain ⟨t, ht, hv, he, ho⟩ := join_of_serves hservesVertices hservesEdges observers
    have hns : ns = t.ns := by
      rw [Topology.ns, hv, hservesVertices]
    subst hns
    have hagree := (serves_iff hchosen).mpr ⟨hservesVertices, hservesEdges⟩
    exact ⟨t, ht, madeOf_of_serves hchosen hagree hv he ho⟩
  · intro hrefused
    exact join_of_not_serves hrefused observers

/-- An empty store is used as it is when no name is asked for, and no other name can be
asked for beside it. -/
theorem empty_store_is_kept :
    let configured := ({} : Settings).topology.ns
    (∃ t : Topology Unit, assemble (some "") (some (.empty "n")) none configured () = .ok t ∧
      t.ns = "n" ∧ t.vertices = .empty "n" ∧ t.edges = .empty "n") ∧
    ∃ fault, assemble (some "k") (some (.empty "n")) none configured () = .error fault ∧
      fault.IsMismatch := by
  intro configured
  have hvertices : ∀ s, some (Store.empty "n") = some s →
      s.Reached .vertices fun _ => True := by
    rintro s hs
    obtain rfl := Option.some.inj hs
    have hnew : Store.make .vertices "n" = .ok (.empty "n") := rfl
    exact .make hnew
  have hedges : ∀ s, (none : Option Store) = some s → s.Reached .edges fun _ => True := nofun
  have hagree : Agree (some "") (some (.empty "n")) none := by
    have hone : ∀ ns, Given (some "") (some (.empty "n")) none ns → ns = "n" := by
      intro ns hgiven
      cases hgiven with
      | byName h ne => exact absurd (Option.some.inj h).symm ne
      | byVertices h =>
          obtain rfl := Option.some.inj h
          rfl
      | byEdges h => cases h
    intro ns ns' hns hns'
    rw [hone ns hns, hone ns' hns']
  have hdiffer : ¬ Agree (some "k") (some (.empty "n")) none := by
    intro hagree
    have heq : "k" = "n" := hagree _ _ (.byName rfl (by decide)) (.byVertices rfl)
    exact absurd heq (by decide)
  constructor
  · obtain ⟨t, ht, hmade⟩ := (made_iff_namespaces_agree hvertices hedges _ {} ()).1 hagree
    have hns : t.ns = "n" := hmade.ns_eq "n" (.byVertices rfl)
    have hedges := hmade.edges_empty rfl
    rw [hns] at hedges
    exact ⟨t, ht, hns, hmade.vertices_eq _ rfl, hedges⟩
  · exact (made_iff_namespaces_agree hvertices hedges _ {} ()).2 hdiffer

end Provider

end NetworkTopology
