import NetworkTopology.Entity.Criterion
import NetworkTopology.Event

/-!
# Stores

A store owns entities of one namespace and lists them in the order in which their keys were first
added: an entity that is added again takes the place of the old one, and one that was removed and
comes back goes to the end.  That every entity is of the store's namespace and that no two share a
key is part of the type.  Entities of any kind may be stored; what only vertices or only edges can
answer fails when something else is found.
-/

namespace NetworkTopology

/-- The entities of a namespace. -/
structure Store where
  ns : String
  entries : List Entity
  ns_eq : ∀ entity ∈ entries, entity.key.ns = ns
  nodup : (entries.map Entity.key).Nodup

namespace Store

/-- A store of a namespace, still empty. -/
def empty (ns : String) : Store :=
  { ns, entries := [], ns_eq := by simp, nodup := by simp }

/-- An empty store; a store needs a namespace. -/
def make (kind : StoreKind) (ns : String) : Except Fault Store :=
  if ns.isEmpty then .error (.storeWithoutNamespace kind) else .ok (empty ns)

def size (s : Store) : Nat := s.entries.length

/-- The entity of a key. -/
def find? (s : Store) (key : Key) : Option Entity :=
  s.entries.find? fun entity => entity.key == key

def contains (s : Store) (key : Key) : Bool :=
  s.entries.any fun entity => entity.key == key

theorem contains_iff {s : Store} {key : Key} :
    s.contains key = true ↔ ∃ entity ∈ s.entries, entity.key = key := by
  simp [contains]

/-- A key stands for the stored entity that has it, and for no other. -/
theorem find?_eq_some_iff {s : Store} {key : Key} {entity : Entity} :
    s.find? key = some entity ↔ entity ∈ s.entries ∧ entity.key = key := by
  have unique : ∀ entries : List Entity, (entries.map Entity.key).Nodup →
      (entries.find? (fun other => other.key == key) = some entity ↔
        entity ∈ entries ∧ entity.key = key) := by
    intro entries nodup
    induction entries with
    | nil => simp
    | cons first rest ih =>
      rw [List.map_cons, List.nodup_cons] at nodup
      by_cases h : first.key = key
      · have absent : ∀ other ∈ rest, other.key ≠ key := fun other hm hk =>
          nodup.1 (List.mem_map.2 ⟨other, hm, hk.trans h.symm⟩)
        simp only [List.find?_cons, h, beq_self_eq_true, Option.some.injEq, List.mem_cons]
        constructor
        · rintro rfl
          exact ⟨.inl rfl, h⟩
        · rintro ⟨rfl | hm, hk⟩
          · rfl
          · exact absurd hk (absent entity hm)
      · have hb : (first.key == key) = false := by simpa using h
        simp only [List.find?_cons, hb, ih nodup.2, List.mem_cons]
        constructor
        · rintro ⟨hm, hk⟩
          exact ⟨.inr hm, hk⟩
        · rintro ⟨rfl | hm, hk⟩
          · exact absurd hk h
          · exact ⟨hm, hk⟩
  exact unique s.entries s.nodup

def containsId (s : Store) (id : String) : Bool :=
  s.contains { ns := s.ns, id }

/-- The ids in store order. -/
def ids (s : Store) : List String :=
  s.entries.map fun entity => entity.key.id

/-- The list of entities with one put into the place of its key. -/
def replaceIn (entity : Entity) (entries : List Entity) : List Entity :=
  entries.map fun other => if other.key = entity.key then entity else other

theorem map_key_replaceIn (entity : Entity) (entries : List Entity) :
    (replaceIn entity entries).map Entity.key = entries.map Entity.key := by
  simp only [replaceIn, List.map_map]
  apply List.map_congr_left
  intro other _
  by_cases h : other.key = entity.key <;> simp [h]

theorem ns_eq_of_mem_replaceIn {s : Store} {entity other : Entity}
    (own : entity.key.ns = s.ns) (h : other ∈ replaceIn entity s.entries) :
    other.key.ns = s.ns := by
  obtain ⟨old, hold, rfl⟩ := List.mem_map.1 h
  by_cases hk : old.key = entity.key
  · simpa [hk] using own
  · simpa [hk] using s.ns_eq old hold

/-- Puts an entity of the namespace into the store. -/
def put (s : Store) (entity : Entity) (own : entity.key.ns = s.ns) : Store :=
  if h : s.contains entity.key then
    { ns := s.ns
      entries := replaceIn entity s.entries
      ns_eq := fun _ hm => ns_eq_of_mem_replaceIn own hm
      nodup := by rw [map_key_replaceIn]; exact s.nodup }
  else
    { ns := s.ns
      entries := s.entries ++ [entity]
      ns_eq := by
        intro other hm
        rcases List.mem_append.1 hm with hm | hm
        · exact s.ns_eq other hm
        · rw [List.mem_singleton.1 hm]
          exact own
      nodup := by
        rw [List.map_append, List.map_singleton, List.nodup_append]
        refine ⟨s.nodup, by simp, ?_⟩
        intro key hk other ho heq
        rw [List.mem_singleton.1 ho] at heq
        obtain ⟨old, hold, hkey⟩ := List.mem_map.1 hk
        exact h (List.any_eq_true.2 ⟨old, hold, by simp [hkey, heq]⟩) }

/-- An entity whose key is stored takes the place of the old one, and any other goes to the end. -/
theorem entries_put (s : Store) (entity : Entity) (own : entity.key.ns = s.ns) :
    (s.put entity own).entries =
      if s.contains entity.key then replaceIn entity s.entries
      else s.entries ++ [entity] := by
  unfold put
  split <;> rfl

def erase (s : Store) (key : Key) : Store :=
  { ns := s.ns
    entries := s.entries.filter fun entity => entity.key != key
    ns_eq := fun entity h => s.ns_eq entity (List.mem_filter.1 h).1
    nodup := s.nodup.sublist (List.filter_sublist.map _) }

/-- Only the entity of the key goes, and the others keep their order. -/
theorem entries_erase (s : Store) (key : Key) :
    (s.erase key).entries = s.entries.filter fun entity => entity.key != key := rfl

def clear (s : Store) : Store :=
  empty s.ns

/-- What became of entities that were offered to a store: it took some under new keys and some under
keys it had, and refused those of other namespaces. -/
structure Intake where
  store : Store
  added : List Entity := []
  updated : List Entity := []
  refused : List Entity := []

/-- Offers one entity; nothing may be offered too. -/
def Intake.offer (intake : Intake) : Option Entity → Intake
  | none => intake
  | some entity =>
    if own : entity.key.ns = intake.store.ns then
      if intake.store.contains entity.key then
        { intake with
          store := intake.store.put entity own, updated := intake.updated ++ [entity] }
      else
        { intake with
          store := intake.store.put entity own, added := intake.added ++ [entity] }
    else { intake with refused := intake.refused ++ [entity] }

/-- Offers entities in order. -/
def add (s : Store) (entities : List (Option Entity)) : Intake :=
  entities.foldl Intake.offer { store := s }

/-- The event of an intake, if the store took anything. -/
def Intake.event? (intake : Intake) : Option ChangeEvent :=
  if intake.added.isEmpty && intake.updated.isEmpty then none
  else some { ns := intake.store.ns, added := intake.added, updated := intake.updated }

/-- A store after removals, and the entities removed in order. -/
structure Removal where
  store : Store
  removed : List Entity := []

/-- Removes the entity of a key, if it is there. -/
def Removal.drop (removal : Removal) : Option Key → Removal
  | none => removal
  | some key =>
    match removal.store.find? key with
    | none => removal
    | some entity =>
      { store := removal.store.erase key, removed := removal.removed ++ [entity] }

/-- Removes the entities of keys in order. -/
def remove (s : Store) (keys : List (Option Key)) : Removal :=
  keys.foldl Removal.drop { store := s }

/-- The event of a removal, if anything was removed. -/
def Removal.event? (removal : Removal) : Option ChangeEvent :=
  if removal.removed.isEmpty then none
  else some { ns := removal.store.ns, removed := removal.removed }

@[simp] theorem empty_ns (ns : String) : (empty ns : Store).ns = ns := rfl

@[simp] theorem clear_ns (s : Store) : s.clear.ns = s.ns := rfl

@[simp] theorem erase_ns (s : Store) (key : Key) : (s.erase key).ns = s.ns := rfl

@[simp] theorem put_ns (s : Store) (entity : Entity) (own : entity.key.ns = s.ns) :
    (s.put entity own).ns = s.ns := by
  unfold put
  split <;> rfl

theorem Intake.offer_ns (intake : Intake) (entity : Option Entity) :
    (intake.offer entity).store.ns = intake.store.ns := by
  cases entity with
  | none => rfl
  | some entity =>
    simp only [Intake.offer]
    split
    · split <;> simp
    · rfl

@[simp] theorem add_ns (s : Store) (entities : List (Option Entity)) :
    (s.add entities).store.ns = s.ns := by
  suffices h : ∀ intake : Intake,
      (entities.foldl Intake.offer intake).store.ns = intake.store.ns from h _
  induction entities with
  | nil => intro intake; rfl
  | cons entity entities ih =>
    intro intake
    rw [List.foldl_cons, ih, Intake.offer_ns]

theorem Removal.drop_ns (removal : Removal) (key : Option Key) :
    (removal.drop key).store.ns = removal.store.ns := by
  cases key with
  | none => rfl
  | some key =>
    simp only [Removal.drop]
    split <;> simp

@[simp] theorem remove_ns (s : Store) (keys : List (Option Key)) :
    (s.remove keys).store.ns = s.ns := by
  suffices h : ∀ removal : Removal,
      (keys.foldl Removal.drop removal).store.ns = removal.store.ns from h _
  induction keys with
  | nil => intro removal; rfl
  | cons key keys ih =>
    intro removal
    rw [List.foldl_cons, ih, Removal.drop_ns]

def clearEvent (s : Store) : ChangeEvent :=
  { ns := s.ns, removed := s.entries, cleared := true }

/-- The entity of a key, if it meets the criteria. -/
def get? (s : Store) (criteria : Criteria) (key : Option Key) : Except Fault (Option Entity) :=
  match key.bind s.find? with
  | none => .ok none
  | some entity => do
    if ← criteria.met entity then return some entity else return none

/-- Is there an entity of a key that meets the criteria? -/
def has (s : Store) (criteria : Criteria) (key : Option Key) : Except Fault Bool := do
  return (← s.get? criteria key).isSome

/-- The entities that meet the criteria, in store order. -/
def list (s : Store) (criteria : Criteria) : Except Fault (List Entity) :=
  criteria.select s.entries

/-- The entities of the given keys that are stored and meet the criteria, in the order of the
keys. -/
def listOf (s : Store) (criteria : Criteria) : List (Option Key) → Except Fault (List Entity)
  | [] => .ok []
  | key :: keys => do
    let entity ← s.get? criteria key
    let rest ← s.listOf criteria keys
    return entity.toList ++ rest

/-- The stored members of a collapsible vertex; any other vertex has none. -/
def childrenOf (s : Store) (criteria : Criteria) (key : Option Key) :
    Except Fault (List Entity) :=
  match key.bind s.find? with
  | none => .ok []
  | some entity => do
    let v ← entity.asVertex
    s.listOf criteria v.children

/-- The vertices that meet the criteria and are not collapsible. -/
def plain (s : Store) (criteria : Criteria) : Except Fault (List Vertex) := do
  let vertices ← Entity.toVertices (← s.list criteria)
  return vertices.filter fun v => !v.isCollapsible

def attached (s : Store) : Option Key → Except Fault (List Edge)
  | none => .ok []
  | some vertex => do
    let edges ← Entity.toEdges s.entries
    return edges.filter fun e => e.connects vertex

/-- The edges attached to each of several vertices, in the order in which the vertices are first
named. -/
def attachedToEach (s : Store) (vertices : List (Option Key)) :
    Except Fault (List (Key × List Edge)) :=
  (vertices.filterMap id).eraseDups.mapM fun vertex => do
    return (vertex, ← s.attached (some vertex))

end Store

end NetworkTopology
