import NetworkTopology.Proofs.Result
import NetworkTopology.Proofs.Store.Replay

/-!
# Listings and lookups

A store can list its entities under criteria, and look some of them up.  Where the
criteria can be asked of all that is stored, both come to the same: a lookup finds the
one entity of the listing that has the key, if there is one.
-/

namespace NetworkTopology

/-! ## Criteria that can be asked -/

namespace Criteria

/-- Each criterion has an answer for all entities of a sort. -/
def TotalOn (sort : Entity → Prop) (criteria : Criteria) : Prop :=
  ∀ criterion ∈ criteria, ∀ entity, sort entity → ∃ answer, criterion entity = .ok answer

/-- Is the answer of each criterion yes? -/
def holds (criteria : Criteria) (entity : Entity) : Bool :=
  criteria.all fun criterion => (criterion entity).toOption == some true

variable {sort : Entity → Prop} {criteria more : Criteria} {entity : Entity}

theorem totalOn_append (h : criteria.TotalOn sort) (hmore : more.TotalOn sort) :
    TotalOn sort (criteria ++ more) := by
  intro criterion hmem
  rcases List.mem_append.mp hmem with hmem | hmem
  · exact h criterion hmem
  · exact hmore criterion hmem

theorem holds_append (criteria more : Criteria) (entity : Entity) :
    holds (criteria ++ more) entity = (criteria.holds entity && more.holds entity) :=
  List.all_append

theorem met_of_totalOn (h : criteria.TotalOn sort) (hentity : sort entity) :
    criteria.met entity = .ok (criteria.holds entity) := by
  induction criteria with
  | nil => rfl
  | cons criterion criteria ih =>
      obtain ⟨answer, hanswer⟩ := h criterion List.mem_cons_self entity hentity
      have hrest := ih fun other hmem => h other (List.mem_cons_of_mem criterion hmem)
      rw [met, hanswer, holds, List.all_cons, hanswer]
      by_cases hyes : answer = true
      · rw [hyes]
        exact hrest
      · rw [Bool.eq_false_iff.mpr hyes]
        rfl

theorem select_of_totalOn (h : criteria.TotalOn sort) {entities : List Entity}
    (hentities : ∀ entity ∈ entities, sort entity) :
    criteria.select entities = .ok (entities.filter criteria.holds) := by
  induction entities with
  | nil => rfl
  | cons entity entities ih =>
      obtain ⟨hentity, hrest⟩ := List.forall_mem_cons.mp hentities
      rw [select, met_of_totalOn h hentity, ih hrest, List.filter_cons]
      rfl

end Criteria

/-! ## Stores that hold one sort of entity -/

namespace Store

/-- What a mutation adds is of a sort. -/
def Mutation.Offers (sort : Entity → Prop) : Mutation → Prop
  | .add entities => ∀ entity, some entity ∈ entities → sort entity
  | .remove _ | .clear => True

/-- Stores to which mutations lead that add entities of a sort only. -/
inductive Reached (kind : StoreKind) (sort : Entity → Prop) : Store → Prop
  | make {ns : String} {s : Store} (h : make kind ns = .ok s) : Reached kind sort s
  | mutate {s : Store} (h : Reached kind sort s) (m : Mutation) (offers : m.Offers sort) :
      Reached kind sort (s.mutate m)

theorem of_make_ok {kind : StoreKind} {ns : String} {s : Store} (h : make kind ns = .ok s) :
    ns ≠ "" ∧ s = empty ns := by
  by_cases hempty : ns.isEmpty = true
  · rw [make, if_pos hempty] at h
    cases h
  · rw [make, if_neg hempty] at h
    cases h
    refine ⟨?_, rfl⟩
    rintro rfl
    exact hempty rfl

theorem Intake.mem_entries_offer {intake : Intake} {offered : Option Entity} {entity : Entity}
    (h : entity ∈ (intake.offer offered).store.entries) :
    entity ∈ intake.store.entries ∨ offered = some entity := by
  cases offered with
  | none => exact .inl h
  | some new =>
      by_cases own : new.key.ns = intake.store.ns
      · have hstore : (intake.offer (some new)).store = intake.store.put new own := by
          simp only [Intake.offer, dif_pos own]
          split <;> rfl
        rw [hstore, entries_put] at h
        split at h
        · obtain ⟨old, hold, rfl⟩ := List.mem_map.mp h
          by_cases hkey : old.key = new.key
          · exact .inr (by rw [if_pos hkey])
          · exact .inl (by rwa [if_neg hkey])
        · rcases List.mem_append.mp h with hmem | hmem
          · exact .inl hmem
          · exact .inr (by rw [List.mem_singleton.mp hmem])
      · simp only [Intake.offer, dif_neg own] at h
        exact .inl h

theorem mem_entries_add {s : Store} {entities : List (Option Entity)} {entity : Entity}
    (h : entity ∈ (s.add entities).store.entries) :
    entity ∈ s.entries ∨ some entity ∈ entities := by
  suffices hfold : ∀ intake : Intake,
      entity ∈ (entities.foldl Intake.offer intake).store.entries →
        entity ∈ intake.store.entries ∨ some entity ∈ entities from hfold { store := s } h
  clear h
  induction entities with
  | nil =>
      intro intake h
      exact .inl h
  | cons offered entities ih =>
      intro intake h
      rcases ih _ h with hmem | hmem
      · rcases Intake.mem_entries_offer hmem with hmem | rfl
        · exact .inl hmem
        · exact .inr List.mem_cons_self
      · exact .inr (List.mem_cons_of_mem _ hmem)

/-- What is stored was stored before, or the mutation added it. -/
theorem sort_of_mem_mutate {sort : Entity → Prop} {s : Store} {m : Mutation}
    (hs : ∀ entity ∈ s.entries, sort entity) (offers : m.Offers sort) :
    ∀ entity ∈ (s.mutate m).entries, sort entity := by
  intro entity hmem
  cases m with
  | add entities =>
      rcases mem_entries_add hmem with hmem | hmem
      · exact hs entity hmem
      · exact offers entity hmem
  | remove keys =>
      rw [mutate, entries_remove] at hmem
      exact hs entity (List.mem_filter.mp hmem).1
  | clear => cases hmem

namespace Reached

variable {kind : StoreKind} {sort : Entity → Prop} {s : Store}

theorem sort_of_mem (h : s.Reached kind sort) : ∀ entity ∈ s.entries, sort entity := by
  induction h with
  | make h =>
      obtain ⟨-, rfl⟩ := of_make_ok h
      intro entity hmem
      cases hmem
  | mutate _ m offers ih => exact sort_of_mem_mutate ih offers

theorem ns_ne_empty (h : s.Reached kind sort) : s.ns ≠ "" := by
  induction h with
  | make h =>
      obtain ⟨hne, rfl⟩ := of_make_ok h
      exact hne
  | mutate _ m _ ih =>
      rw [mutate_ns]
      exact ih

end Reached

/-! ## Lookups -/

variable {sort : Entity → Prop} {s : Store} {c d : Criteria}

/-- The entity of a key that criteria hold of. -/
def lookup (s : Store) (c : Criteria) (key : Option Key) : Option Entity :=
  (key.bind s.find?).filter c.holds

/-- A lookup finds the one entity of the listing that has the key. -/
theorem lookup_eq_some_iff {key : Option Key} {entity : Entity} :
    s.lookup c key = some entity ↔
      entity ∈ s.entries.filter c.holds ∧ key = some entity.key := by
  rw [lookup, Option.filter_eq_some_iff, Option.bind_eq_some_iff, List.mem_filter]
  constructor
  · rintro ⟨⟨key, rfl, hfind⟩, hholds⟩
    obtain ⟨hmem, rfl⟩ := find?_eq_some_iff.mp hfind
    exact ⟨⟨hmem, hholds⟩, rfl⟩
  · rintro ⟨⟨hmem, hholds⟩, rfl⟩
    exact ⟨⟨entity.key, rfl, find?_eq_some_iff.mpr ⟨hmem, rfl⟩⟩, hholds⟩

variable (hs : ∀ entity ∈ s.entries, sort entity)

include hs

theorem list_of_totalOn (hc : c.TotalOn sort) : s.list c = .ok (s.entries.filter c.holds) :=
  Criteria.select_of_totalOn hc hs

theorem list_append_of_totalOn (hc : c.TotalOn sort) (hd : d.TotalOn sort) :
    s.list (c ++ d) = .ok ((s.entries.filter c.holds).filter d.holds) := by
  rw [list_of_totalOn hs (Criteria.totalOn_append hc hd), List.filter_filter]
  congr 1
  apply List.filter_congr
  intro entity _
  rw [Criteria.holds_append, Bool.and_comm]

theorem get?_of_totalOn (hc : c.TotalOn sort) (key : Option Key) :
    s.get? c key = .ok (s.lookup c key) := by
  rw [get?, lookup]
  cases hfind : key.bind s.find? with
  | none => rfl
  | some entity =>
      obtain ⟨_, -, hentity⟩ := Option.bind_eq_some_iff.mp hfind
      have hmem := (find?_eq_some_iff.mp hentity).1
      simp only [Criteria.met_of_totalOn hc (hs entity hmem)]
      by_cases hholds : c.holds entity = true
      · rw [Option.filter_some_pos hholds, hholds]
        rfl
      · have hnot : c.holds entity = false := Bool.eq_false_iff.mpr hholds
        rw [Option.filter_some_neg hnot, hnot]
        rfl

theorem has_of_totalOn (hc : c.TotalOn sort) (key : Option Key) :
    s.has c key =
      .ok ((s.entries.filter c.holds).any fun entity => key == some entity.key) := by
  rw [has, get?_of_totalOn hs hc]
  change Except.ok (s.lookup c key).isSome = _
  congr 1
  rw [Bool.eq_iff_iff, Option.isSome_iff_exists, List.any_eq_true]
  simp only [lookup_eq_some_iff, beq_iff_eq]

theorem listOf_of_totalOn (hc : c.TotalOn sort) (keys : List (Option Key)) :
    s.listOf c keys = .ok (keys.filterMap (s.lookup c)) := by
  induction keys with
  | nil => rfl
  | cons key keys ih =>
      rw [listOf, get?_of_totalOn hs hc, ih]
      cases hlookup : s.lookup c key with
      | none =>
          rw [List.filterMap_cons_none hlookup]
          rfl
      | some entity =>
          rw [List.filterMap_cons_some hlookup]
          rfl

omit hs in
/-- Different keys find different entities. -/
theorem nodup_filterMap_lookup {keys : List (Option Key)} (h : keys.Nodup) :
    (keys.filterMap (s.lookup c)).Nodup := by
  apply h.filterMap
  intro key other entity hfound hother
  rw [(lookup_eq_some_iff.mp hfound).2, (lookup_eq_some_iff.mp hother).2]

omit hs in
theorem mem_filterMap_lookup_iff {keys : List (Option Key)} {entity : Entity} :
    entity ∈ keys.filterMap (s.lookup c) ↔
      entity ∈ s.entries.filter c.holds ∧ some entity.key ∈ keys := by
  rw [List.mem_filterMap]
  constructor
  · rintro ⟨key, hkey, hfound⟩
    obtain ⟨hmem, rfl⟩ := lookup_eq_some_iff.mp hfound
    exact ⟨hmem, hkey⟩
  · rintro ⟨hmem, hkey⟩
    exact ⟨some entity.key, hkey, lookup_eq_some_iff.mpr ⟨hmem, rfl⟩⟩

/-- What a store answers under criteria agrees with what it lists under them. -/
structure Agrees (s : Store) (c d : Criteria) (listed : List Entity) : Prop where
  list_eq : s.list c = .ok listed
  list_append_eq : s.list (c ++ d) = .ok (listed.filter d.holds)
  get?_none : s.get? c none = .ok none
  get?_some : ∀ key, ∃ found, s.get? c (some key) = .ok found ∧
    ∀ entity, found = some entity ↔ entity ∈ listed ∧ entity.key = key
  has_eq : ∀ key, s.has c key = .ok (listed.any fun entity => key == some entity.key)
  listOf_eq : ∀ keys, ∃ founds, keys.mapM (s.get? c) = .ok founds ∧
    s.listOf c keys = .ok (founds.filterMap id)

theorem agrees_of_totalOn (hc : c.TotalOn sort) (hd : d.TotalOn sort) :
    s.Agrees c d (s.entries.filter c.holds) where
  list_eq := list_of_totalOn hs hc
  list_append_eq := list_append_of_totalOn hs hc hd
  get?_none := rfl
  get?_some := by
    intro key
    refine ⟨_, get?_of_totalOn hs hc (some key), ?_⟩
    intro entity
    rw [lookup_eq_some_iff, Option.some.injEq, eq_comm (a := key)]
  has_eq := has_of_totalOn hs hc
  listOf_eq := by
    intro keys
    refine ⟨keys.map (s.lookup c), ?_, ?_⟩
    · exact Result.mapM_of_forall fun key _ => get?_of_totalOn hs hc key
    · rw [listOf_of_totalOn hs hc, List.filterMap_map]
      rfl

end Store

/-! ## Vertices and edges -/

/-- A vertex.  Those that it stands for are a set. -/
def Entity.IsVertex (entity : Entity) : Prop :=
  ∃ v : Vertex, v.children.Nodup ∧ .vertex v = entity

def Entity.IsEdge (entity : Entity) : Prop :=
  ∃ e : Edge, .edge e = entity

/-- The sort of entity that a store is for. -/
def StoreKind.Holds : StoreKind → Entity → Prop
  | vertices => Entity.IsVertex
  | edges => Entity.IsEdge

namespace Store

variable {s : Store} {c : Criteria}

/-- What only a vertex store answers agrees with what it lists. -/
structure AgreesOnVertices (s : Store) (c : Criteria) (listed : List Entity) : Prop where
  plain_eq : ∃ vs : List Vertex, listed = vs.map .vertex ∧
    s.plain c = .ok (vs.filter fun v => !v.isCollapsible)
  members : ∀ v : Vertex, .vertex v ∈ s.entries → v.isCollapsible = true →
    ∃ members, s.childrenOf c (some v.key) = .ok members ∧ members.Nodup ∧
      ∀ entity, entity ∈ members ↔ entity ∈ listed ∧ some entity.key ∈ v.children
  no_members : ∀ key, (∀ v : Vertex, .vertex v ∈ s.entries → key = some v.key →
    v.isCollapsible = false) → s.childrenOf c key = .ok []

theorem agreesOnVertices (hs : ∀ entity ∈ s.entries, entity.IsVertex)
    (hc : c.TotalOn Entity.IsVertex) : s.AgreesOnVertices c (s.entries.filter c.holds) where
  plain_eq := by
    obtain ⟨vs, hvs, -⟩ := exists_map_eq (f := Entity.vertex) fun entity hmem =>
      hs entity (List.mem_filter.mp hmem).1
    refine ⟨vs, hvs, ?_⟩
    rw [plain, list_of_totalOn hs hc, hvs]
    change Entity.toVertices (vs.map .vertex) >>= _ = _
    rw [Entity.toVertices_map_vertex]
    rfl
  members := by
    intro v hv _
    obtain ⟨v', hnodup, hv'⟩ := hs _ hv
    cases hv'
    have hfind : (some v.key).bind s.find? = some (.vertex v) :=
      find?_eq_some_iff.mpr ⟨hv, rfl⟩
    refine ⟨v.children.filterMap (s.lookup c), ?_, nodup_filterMap_lookup hnodup, ?_⟩
    · rw [childrenOf, hfind]
      exact listOf_of_totalOn hs hc v.children
    · intro entity
      exact mem_filterMap_lookup_iff
  no_members := by
    intro key hplain
    rw [childrenOf]
    cases hfind : key.bind s.find? with
    | none => rfl
    | some entity =>
        obtain ⟨key, rfl, hentity⟩ := Option.bind_eq_some_iff.mp hfind
        obtain ⟨hmem, rfl⟩ := find?_eq_some_iff.mp hentity
        obtain ⟨v, -, rfl⟩ := hs entity hmem
        have hgroup : v.group = none := by
          have hnot := hplain v hmem rfl
          rwa [Vertex.isCollapsible, Option.isSome_eq_false_iff, Option.isNone_iff_eq_none] at hnot
        have hchildren : v.children = [] := by
          rw [Vertex.children, hgroup]
          rfl
        change s.listOf c v.children = .ok []
        rw [hchildren]
        rfl

end Store

end NetworkTopology
