import NetworkTopology.Proofs.Topology.Presentable

/-!
# Selections by the ids of vertices

Where every node id is an integer, vertices can be selected by any ids and the node
ids of the selection can be listed.  Ids that name no vertex do not count.
-/

namespace NetworkTopology

variable {O : Type}

/-! ## Integers as node ids -/

theorem NodeId.exists_sorted (numbers : List Int) :
    ∃ listed : List Int, sorted (numbers.map .int) = .ok (listed.map .int) ∧
      ∀ n ∈ listed, n ∈ numbers := by
  have hall : (numbers.map NodeId.int).all (fun id => id.quantity?.isSome) = true := by
    apply List.all_eq_true.mpr
    intro id hid
    obtain ⟨n, -, rfl⟩ := List.mem_map.mp hid
    rfl
  have hints : ∀ id ∈ (numbers.map NodeId.int).mergeSort fun x y => (y.lt? x) != some true,
      ∃ n : Int, n ∈ numbers ∧ .int n = id := by
    intro id hid
    exact List.mem_map.mp ((List.mergeSort_perm _ _).mem_iff.mp hid)
  obtain ⟨listed, hlisted, hmem⟩ := exists_map_eq hints
  refine ⟨listed, ?_, hmem⟩
  rw [sorted, if_pos (.inr (.inl hall)), hlisted]

namespace Selection

variable {ns : String} {xs ys : List (Option Entity)}

/-- What is selected counts for its node ids alone. -/
theorem collect_congr {ids : List NodeId} (h : xs.map (nodeIdOf ns) = ys.map (nodeIdOf ns)) :
    collect ns ids xs = collect ns ids ys := by
  induction xs generalizing ys ids with
  | nil =>
      rw [List.map_eq_nil_iff.mp h.symm]
  | cons x xs ih =>
      obtain ⟨y, ys, rfl, hhead, htail⟩ := List.map_eq_cons_iff.mp h.symm
      rw [collect, collect, hhead]
      cases nodeIdOf ns x with
      | error fault => rfl
      | ok found =>
          cases found with
          | none => exact ih htail.symm
          | some id => exact ih htail.symm

/-- Something without a node id, or with an integer as its node id. -/
def Countable (ns : String) (x : Option Entity) : Prop :=
  nodeIdOf ns x = .ok none ∨ ∃ n : Int, nodeIdOf ns x = .ok (some (.int n))

theorem countable_of_isNodeId {v : Vertex} (h : v.nodeId.IsNodeId) :
    Countable ns (some (.vertex v)) := by
  rw [Countable, nodeIdOf]
  by_cases hcounts : v.key.ns = ns ∧ v.nodeId ≠ .null
  · rw [if_pos hcounts]
    rcases h with hnull | ⟨n, hn⟩
    · exact absurd hnull hcounts.2
    · rw [hn]
      exact .inr ⟨n, rfl⟩
  · rw [if_neg hcounts]
    exact .inl rfl

theorem nodeIdOf_eq_int_iff {x : Option Entity} {n : Int} :
    nodeIdOf ns x = .ok (some (.int n)) ↔
      ∃ v : Vertex, x = some (.vertex v) ∧ v.key.ns = ns ∧ v.nodeId = .int n := by
  constructor
  · intro h
    rcases x with _ | entity
    · cases h
    · cases entity with
      | vertex v =>
          rw [nodeIdOf] at h
          split at h
          · rename_i hcounts
            obtain ⟨own, hown, h⟩ := Result.of_bind_ok h
            cases h
            refine ⟨v, rfl, hcounts.1, ?_⟩
            cases hnodeId : v.nodeId <;> rw [hnodeId] at hown <;> cases hown
            rfl
          · cases h
      | ref key | vertexRef key | edgeRef key | connector c | edge e => cases h
  · rintro ⟨v, rfl, hns, hn⟩
    have hcounts : v.key.ns = ns ∧ v.nodeId ≠ .null := by
      refine ⟨hns, ?_⟩
      rw [hn]
      intro hnull
      cases hnull
    rw [nodeIdOf, if_pos hcounts, hn]
    rfl

theorem exists_insertId (numbers : List Int) (n : Int) :
    ∃ more : List Int, insertId (numbers.map .int) (.int n) = more.map .int ∧
      ∀ m ∈ more, m ∈ numbers ∨ m = n := by
  rw [insertId]
  split
  · exact ⟨numbers, rfl, fun m hm => .inl hm⟩
  · refine ⟨numbers ++ [n], by rw [List.map_append, List.map_singleton], fun m hm => ?_⟩
    exact (List.mem_append.mp hm).imp_right List.mem_singleton.mp

/-- Integers are collected: those that were there, and those that something counts for. -/
theorem exists_collect (h : ∀ x ∈ xs, Countable ns x) (numbers : List Int) :
    ∃ more : List Int, collect ns (numbers.map .int) xs = .ok (more.map .int) ∧
      ∀ m ∈ more, m ∈ numbers ∨ ∃ x ∈ xs, nodeIdOf ns x = .ok (some (.int m)) := by
  induction xs generalizing numbers with
  | nil => exact ⟨numbers, rfl, fun m hm => .inl hm⟩
  | cons x xs ih =>
      have hrest := ih fun other hmem => h other (List.mem_cons_of_mem x hmem)
      rw [collect]
      rcases h x List.mem_cons_self with hnone | ⟨n, hn⟩
      · rw [hnone]
        obtain ⟨more, hmore, hmem⟩ := hrest numbers
        refine ⟨more, hmore, fun m hm => (hmem m hm).imp_right ?_⟩
        rintro ⟨other, hother, hown⟩
        exact ⟨other, List.mem_cons_of_mem x hother, hown⟩
      · obtain ⟨numbers', hnumbers', hinserted⟩ := exists_insertId numbers n
        obtain ⟨more, hmore, hmem⟩ := hrest numbers'
        refine ⟨more, ?_, fun m hm => ?_⟩
        · rw [hn, ← hmore, ← hnumbers']
          rfl
        · rcases hmem m hm with hold | ⟨other, hother, hown⟩
          · rcases hinserted m hold with hold | rfl
            · exact .inl hold
            · exact .inr ⟨x, List.mem_cons_self, hn⟩
          · exact .inr ⟨other, List.mem_cons_of_mem x hother, hown⟩

/-- A selection shows integers in order, or no ids at all. -/
structure Shows (selection : Selection) (shown : Option (List Int)) : Prop where
  listing : selection.listing = .ok (shown.map fun numbers => numbers.map .int)
  sorted : NodeId.sorted (selection.ids?.getD []) = .ok ((shown.getD []).map .int)
  none_iff : shown = none ↔ selection.typeName = "Selection"

theorem exists_shows (numbers : List Int) (contentType : Option ContentType) :
    ∃ shown, (ofIds (numbers.map .int) contentType).Shows shown ∧
      ∀ n ∈ shown.getD [], n ∈ numbers := by
  obtain ⟨listed, hlisted, hmem⟩ := NodeId.exists_sorted numbers
  have hids : ∀ selection : Selection, selection.ids? = some (numbers.map .int) →
      selection.typeName ≠ "Selection" → selection.Shows (some listed) := by
    intro selection hids htype
    constructor
    · rw [Selection.listing, hids]
      simp only [hlisted]
      rfl
    · rw [hids]
      exact hlisted
    · constructor
      · intro h
        cases h
      · intro h
        exact absurd h htype
  have hnothing : nothing.Shows none := by
    constructor
    · rfl
    · change NodeId.sorted [] = .ok []
      rw [NodeId.sorted, if_pos (.inl (by decide)), List.mergeSort_nil]
    · decide
  have halarms : (alarms (numbers.map .int)).typeName ≠ "Selection" := by
    rw [typeName]
    decide
  have hnodes : (nodes (numbers.map .int)).typeName ≠ "Selection" := by
    rw [typeName]
    decide
  have hempty : ∀ n ∈ (none : Option (List Int)).getD [], n ∈ numbers := List.forall_mem_nil _
  cases contentType with
  | none => exact ⟨none, hnothing, hempty⟩
  | some contentType =>
      cases contentType with
      | alarm => exact ⟨_, hids (alarms _) rfl halarms, hmem⟩
      | node => exact ⟨_, hids (nodes _) rfl hnodes, hmem⟩
      | application | businessService | ipService => exact ⟨none, hnothing, hempty⟩

end Selection

/-! ## Selected ids -/

namespace Topology

variable {vs : List Vertex} {es : List Edge} {t : Topology O}

/-- The key that an id stands for, if it names a vertex. -/
def named (t : Topology O) (id : String) : Option Key :=
  if t.vertices.contains ⟨t.ns, id⟩ then some ⟨t.ns, id⟩ else none

/-- Only the vertices count, whoever watches. -/
theorem select_eq_of_vertices_eq {O' : Type} {other : Topology O'}
    (h : other.vertices = t.vertices) (selected : List (Option Entity))
    (contentType : Option ContentType) :
    other.select selected contentType = t.select selected contentType := by
  have hresolve : other.resolve = t.resolve := by
    funext x
    simp only [resolve, h]
  rw [select, select, hresolve, Topology.ns, h]
  rfl

theorem named_eq_of_vertices_eq {O' : Type} {other : Topology O'}
    (h : other.vertices = t.vertices) (id : String) : other.named id = t.named id := by
  rw [named, named, Topology.ns, Topology.ns, h]

theorem resolve_of_find? {key : Key} {found : Option Entity}
    (h : t.vertices.find? key = found) :
    t.resolve (some (.vertexRef key)) = some (found.getD (.vertexRef key)) :=
  h ▸ rfl

theorem countable_resolve (h : t.Presentable vs es)
    (hnodeIds : ∀ v ∈ vs, v.nodeId.IsNodeId) (id : String) :
    Selection.Countable t.ns (t.resolve (some (.vertexRef ⟨t.ns, id⟩))) := by
  rcases Store.single_or_none h.vertices_eq id with ⟨hfind, -⟩ | ⟨v, hv, hfind, -⟩
  · have hresolve : t.resolve (some (.vertexRef ⟨t.ns, id⟩)) =
        some (.vertexRef ⟨t.ns, id⟩) := resolve_of_find? hfind
    rw [hresolve]
    exact .inl rfl
  · have hresolve : t.resolve (some (.vertexRef ⟨t.ns, id⟩)) = some (.vertex v) :=
      resolve_of_find? hfind
    rw [hresolve]
    exact Selection.countable_of_isNodeId (hnodeIds v hv)

/-- What an id counts for is the node id of a stored vertex. -/
theorem exists_of_nodeIdOf_resolve (h : t.Presentable vs es) {id : String} {n : Int}
    (hown : Selection.nodeIdOf t.ns (t.resolve (some (.vertexRef ⟨t.ns, id⟩))) =
      .ok (some (.int n))) : ∃ v ∈ vs, v.nodeId = .int n := by
  obtain ⟨v, hresolve, -, hnodeId⟩ := Selection.nodeIdOf_eq_int_iff.mp hown
  rcases Store.single_or_none h.vertices_eq id with ⟨hfind, -⟩ | ⟨w, hw, hfind, -⟩
  · have hbare : t.resolve (some (.vertexRef ⟨t.ns, id⟩)) = some (.vertexRef ⟨t.ns, id⟩) :=
      resolve_of_find? hfind
    rw [hbare] at hresolve
    cases hresolve
  · have hvertex : t.resolve (some (.vertexRef ⟨t.ns, id⟩)) = some (.vertex w) :=
      resolve_of_find? hfind
    rw [hvertex] at hresolve
    obtain rfl := Entity.vertex.inj (Option.some.inj hresolve)
    exact ⟨w, hw, hnodeId⟩

/-- Whether an id that names no vertex is given as it is or left out, it does not
count. -/
theorem nodeIdOf_resolve_named (t : Topology O) (id : String) :
    Selection.nodeIdOf t.ns (t.resolve ((t.named id).map .vertexRef)) =
      Selection.nodeIdOf t.ns (t.resolve (some (.vertexRef ⟨t.ns, id⟩))) := by
  rw [named]
  split
  · rfl
  · rename_i hcontains
    have hfind := Store.find?_eq_none_iff.mpr (Bool.eq_false_iff.mpr hcontains)
    rw [resolve_of_find? hfind]
    rfl

/-- Any ids can be selected, in either way. -/
theorem exists_selection (h : t.Presentable vs es) (hnodeIds : ∀ v ∈ vs, v.nodeId.IsNodeId)
    (ids : List String) (contentType : Option ContentType) :
    ∃ selection shown, selection.Shows shown ∧
      (∀ n ∈ shown.getD [], ∃ v ∈ vs, v.nodeId = .int n) ∧
      t.select (ids.map fun id => some (.vertexRef ⟨t.ns, id⟩)) contentType =
        .ok selection ∧
      t.select (ids.map fun id => (t.named id).map .vertexRef) contentType =
        .ok selection := by
  have hcountable : ∀ x ∈ (ids.map fun id => some (Entity.vertexRef ⟨t.ns, id⟩)).map t.resolve,
      Selection.Countable t.ns x := by
    intro x hx
    rw [List.map_map] at hx
    obtain ⟨id, -, rfl⟩ := List.mem_map.mp hx
    exact countable_resolve h hnodeIds id
  obtain ⟨numbers, hnumbers, hcounted⟩ := Selection.exists_collect hcountable []
  obtain ⟨shown, hshown, hlisted⟩ := Selection.exists_shows numbers contentType
  have hstored : ∀ n ∈ shown.getD [], ∃ v ∈ vs, v.nodeId = .int n := by
    intro n hn
    obtain ⟨x, hx, hown⟩ := (hcounted n (hlisted n hn)).resolve_left List.not_mem_nil
    rw [List.map_map] at hx
    obtain ⟨id, -, rfl⟩ := List.mem_map.mp hx
    exact exists_of_nodeIdOf_resolve h hown
  have hsame : ((ids.map fun id => (t.named id).map Entity.vertexRef).map t.resolve).map
        (Selection.nodeIdOf t.ns) =
      ((ids.map fun id => some (Entity.vertexRef ⟨t.ns, id⟩)).map t.resolve).map
        (Selection.nodeIdOf t.ns) := by
    simp only [List.map_map]
    apply List.map_congr_left
    intro id _
    exact t.nodeIdOf_resolve_named id
  refine ⟨_, shown, hshown, hstored, ?_, ?_⟩
  · rw [select, Selection.make]
    exact congrArg (· >>= _) hnumbers
  · rw [select, Selection.make, Selection.collect_congr hsame]
    exact congrArg (· >>= _) hnumbers

end Topology

end NetworkTopology
