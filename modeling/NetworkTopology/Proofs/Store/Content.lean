import Mathlib.Data.List.Nodup
import NetworkTopology.Store

/-!
# The content of a store

Which keys a store holds after entities were added to it or removed from it, and
in which order what remains is listed.
-/

namespace NetworkTopology

/-! ## Lists of items -/

section

variable {α β : Type} {f : α → β}

theorem filter_map_of {p : β → Bool} {q : α → Bool} {items : List α}
    (h : ∀ x ∈ items, p (f x) = q x) :
    (items.map f).filter p = (items.filter q).map f := by
  rw [List.filter_map]
  exact congrArg _ (List.filter_congr h)

theorem exists_map_eq {good : α → Prop} {images : List β}
    (h : ∀ y ∈ images, ∃ x, good x ∧ f x = y) :
    ∃ items : List α, images = items.map f ∧ ∀ x ∈ items, good x := by
  induction images with
  | nil => exact ⟨[], rfl, fun _ hmem => absurd hmem List.not_mem_nil⟩
  | cons y images ih =>
      obtain ⟨x, hx, rfl⟩ := h y List.mem_cons_self
      obtain ⟨items, rfl, hitems⟩ := ih fun other hmem => h other (List.mem_cons_of_mem _ hmem)
      exact ⟨x :: items, rfl, List.forall_mem_cons.mpr ⟨hx, hitems⟩⟩

end

namespace Store

/-! ## Keys and ids -/

theorem contains_iff_mem_keys {s : Store} {key : Key} :
    s.contains key = true ↔ key ∈ s.entries.map Entity.key := by
  rw [contains_iff, List.mem_map]

/-- In the namespace of a store, ids tell entities apart as keys do. -/
theorem ids_nodup (s : Store) : s.ids.Nodup := by
  rw [ids, List.nodup_iff_pairwise_ne, List.pairwise_map]
  have hkeys := List.pairwise_map.mp s.nodup
  refine List.Pairwise.imp_of_mem ?_ hkeys
  intro a b ha hb hne hid
  apply hne
  have hns : a.key.ns = b.key.ns := (s.ns_eq a ha).trans (s.ns_eq b hb).symm
  cases hkey : a.key
  cases hkey' : b.key
  simp_all

theorem containsId_iff {s : Store} {id : String} :
    s.containsId id = true ↔ id ∈ s.ids := by
  rw [containsId, contains_iff, ids, List.mem_map]
  constructor
  · rintro ⟨entity, hmem, hkey⟩
    exact ⟨entity, hmem, by rw [hkey]⟩
  · rintro ⟨entity, hmem, rfl⟩
    refine ⟨entity, hmem, ?_⟩
    rw [← s.ns_eq entity hmem]

/-- What is stored has the store's namespace and one of the ids. -/
theorem contains_iff_containsId {s : Store} {key : Key} :
    s.contains key = true ↔ key.ns = s.ns ∧ s.containsId key.id = true := by
  constructor
  · intro h
    obtain ⟨entity, hmem, rfl⟩ := contains_iff.mp h
    have hns := s.ns_eq entity hmem
    rw [containsId, ← hns]
    exact ⟨rfl, h⟩
  · rintro ⟨hns, h⟩
    rw [containsId, ← hns] at h
    exact h

theorem find?_eq_none_iff {s : Store} {key : Key} :
    s.find? key = none ↔ s.contains key = false := by
  simp [find?, contains]

theorem find?_own {s : Store} {entity : Entity} (h : entity ∈ s.entries) :
    s.find? ⟨s.ns, entity.key.id⟩ = some entity :=
  find?_eq_some_iff.mpr ⟨h, by rw [← s.ns_eq entity h]⟩

/-- An id singles out what is stored under its key. -/
theorem filter_id_eq (s : Store) (id : String) :
    s.entries.filter (fun entity => entity.key.id == id) = (s.find? ⟨s.ns, id⟩).toList := by
  cases hfind : s.find? ⟨s.ns, id⟩ with
  | none =>
      apply List.filter_eq_nil_iff.mpr
      intro entity hmem hid
      have hcontains : s.contains ⟨s.ns, id⟩ = true :=
        contains_iff.mpr ⟨entity, hmem, by rw [← s.ns_eq entity hmem, ← beq_iff_eq.mp hid]⟩
      rw [find?_eq_none_iff.mp hfind] at hcontains
      cases hcontains
  | some entity =>
      obtain ⟨hmem, hkey⟩ := find?_eq_some_iff.mp hfind
      have hone : s.entries.filter (fun other => other.key.id == id) =
          s.entries.filter (· == entity) := by
        apply List.filter_congr
        intro other hother
        rw [Bool.eq_iff_iff, beq_iff_eq, beq_iff_eq]
        constructor
        · rintro rfl
          exact Option.some.inj ((find?_own hother).symm.trans hfind)
        · rintro rfl
          rw [hkey]
      rw [hone, List.filter_beq, List.count_eq_one_of_mem s.nodup.of_map hmem]
      rfl

/-- Where a store holds items of one type, an id is that of a single item or of none. -/
theorem single_or_none {α : Type} {s : Store} {make : α → Entity} {items : List α}
    (h : s.entries = items.map make) (id : String) :
    (s.find? ⟨s.ns, id⟩ = none ∧ items.filter (fun x => (make x).key.id == id) = []) ∨
      ∃ x ∈ items, s.find? ⟨s.ns, id⟩ = some (make x) ∧
        items.filter (fun x => (make x).key.id == id) = [x] := by
  have hfilter := s.filter_id_eq id
  rw [h, List.filter_map] at hfilter
  change (items.filter fun x => (make x).key.id == id).map make =
    (s.find? ⟨s.ns, id⟩).toList at hfilter
  cases hfind : s.find? ⟨s.ns, id⟩ with
  | none =>
      rw [hfind] at hfilter
      exact .inl ⟨rfl, List.map_eq_nil_iff.mp hfilter⟩
  | some entity =>
      rw [hfind] at hfilter
      obtain ⟨x, hx, rfl⟩ := List.map_eq_singleton_iff.mp hfilter
      have hmem : x ∈ items.filter fun x => (make x).key.id == id := by
        rw [hx]
        exact List.mem_singleton_self x
      exact .inr ⟨x, (List.mem_filter.mp hmem).1, rfl, hx⟩

/-! ## Removal -/

theorem Removal.entries_drop (removal : Removal) (key : Option Key) :
    (removal.drop key).store.entries =
      removal.store.entries.filter fun entity => key != some entity.key := by
  cases key with
  | none =>
      have hall : ∀ entity ∈ removal.store.entries,
          ((none : Option Key) != some entity.key) = true := fun _ _ => rfl
      exact (List.filter_eq_self.mpr hall).symm
  | some key =>
      cases h : removal.store.find? key with
      | none =>
          have hne : ∀ entity ∈ removal.store.entries, (some key != some entity.key) = true := by
            intro entity hmem
            have hnot := find?_eq_none_iff.mp h
            have : key ≠ entity.key := by
              rintro rfl
              rw [contains_iff.mpr ⟨entity, hmem, rfl⟩] at hnot
              cases hnot
            simpa using this
          simp only [Removal.drop, h]
          exact (List.filter_eq_self.mpr hne).symm
      | some entity =>
          simp only [Removal.drop, h, entries_erase]
          apply List.filter_congr
          intro other _
          simp [bne, Bool.beq_comm (a := key)]

/-- What remains after a removal are the entities whose keys were not named, in
their order. -/
theorem entries_remove (s : Store) (keys : List (Option Key)) :
    (s.remove keys).store.entries =
      s.entries.filter fun entity => !keys.contains (some entity.key) := by
  suffices h : ∀ removal : Removal,
      (keys.foldl Removal.drop removal).store.entries =
        removal.store.entries.filter fun entity => !keys.contains (some entity.key) from
    h { store := s }
  induction keys with
  | nil =>
      intro removal
      exact (List.filter_eq_self.mpr fun _ _ => rfl).symm
  | cons key keys ih =>
      intro removal
      rw [List.foldl_cons, ih, Removal.entries_drop, List.filter_filter]
      apply List.filter_congr
      intro entity _
      simp only [List.contains_cons, Bool.not_or, bne, Bool.beq_comm (a := key)]
      exact Bool.and_comm _ _

theorem contains_remove {s : Store} {keys : List (Option Key)} {key : Key} :
    (s.remove keys).store.contains key = true ↔
      s.contains key = true ∧ some key ∉ keys := by
  rw [contains_iff, contains_iff, entries_remove]
  constructor
  · rintro ⟨entity, hmem, rfl⟩
    obtain ⟨hmem, hkept⟩ := List.mem_filter.mp hmem
    refine ⟨⟨entity, hmem, rfl⟩, ?_⟩
    simpa using hkept
  · rintro ⟨⟨entity, hmem, rfl⟩, hkept⟩
    exact ⟨entity, List.mem_filter.mpr ⟨hmem, by simpa using hkept⟩, rfl⟩

/-! ## Addition -/

theorem contains_put {s : Store} {entity : Entity} (own : entity.key.ns = s.ns)
    {key : Key} :
    (s.put entity own).contains key = true ↔ s.contains key = true ∨ entity.key = key := by
  rw [contains_iff_mem_keys, entries_put]
  split
  · rename_i hcontains
    rw [map_key_replaceIn, ← contains_iff_mem_keys]
    constructor
    · exact Or.inl
    · rintro (hkey | rfl)
      · exact hkey
      · exact hcontains
  · rw [List.map_append, List.mem_append, ← contains_iff_mem_keys, List.map_singleton,
      List.mem_singleton, eq_comm (a := key)]

theorem Intake.contains_offer {intake : Intake} {entity : Option Entity} {key : Key} :
    (intake.offer entity).store.contains key = true ↔
      intake.store.contains key = true ∨
        ∃ taken, entity = some taken ∧ taken.key.ns = intake.store.ns ∧ taken.key = key := by
  cases entity with
  | none => simp [Intake.offer]
  | some entity =>
      by_cases own : entity.key.ns = intake.store.ns
      · have hstore : (intake.offer (some entity)).store = intake.store.put entity own := by
          simp only [Intake.offer, dif_pos own]
          split <;> rfl
        rw [hstore, contains_put]
        constructor
        · rintro (hkey | hkey)
          · exact .inl hkey
          · exact .inr ⟨entity, rfl, own, hkey⟩
        · rintro (hkey | ⟨taken, htaken, -, hkey⟩)
          · exact .inl hkey
          · cases htaken
            exact .inr hkey
      · simp only [Intake.offer, dif_neg own]
        constructor
        · exact Or.inl
        · rintro (hkey | ⟨taken, htaken, htakenOwn, -⟩)
          · exact hkey
          · cases htaken
            exact absurd htakenOwn own

/-- After an addition a key is stored if it was before or if one of the offered
entities of the namespace has it. -/
theorem contains_add {s : Store} {entities : List (Option Entity)} {key : Key} :
    (s.add entities).store.contains key = true ↔
      s.contains key = true ∨
        ∃ taken, some taken ∈ entities ∧ taken.key.ns = s.ns ∧ taken.key = key := by
  suffices h : ∀ intake : Intake,
      ((entities.foldl Intake.offer intake).store.contains key = true ↔
        intake.store.contains key = true ∨
          ∃ taken, some taken ∈ entities ∧ taken.key.ns = intake.store.ns ∧
            taken.key = key) from
    h { store := s }
  induction entities with
  | nil =>
      intro intake
      simp
  | cons entity entities ih =>
      intro intake
      rw [List.foldl_cons, ih, Intake.contains_offer, Intake.offer_ns]
      constructor
      · rintro ((hkey | ⟨taken, rfl, htaken⟩) | ⟨taken, hmem, htaken⟩)
        · exact .inl hkey
        · exact .inr ⟨taken, List.mem_cons_self, htaken⟩
        · exact .inr ⟨taken, List.mem_cons_of_mem _ hmem, htaken⟩
      · rintro (hkey | ⟨taken, hmem, htaken⟩)
        · exact .inl (.inl hkey)
        · rcases List.mem_cons.mp hmem with hhead | hmem
          · exact .inl (.inr ⟨taken, hhead.symm, htaken⟩)
          · exact .inr ⟨taken, hmem, htaken⟩

/-- A single entity under a new key goes to the end. -/
theorem add_singleton_of_new {s : Store} {entity : Entity} (own : entity.key.ns = s.ns)
    (new : s.contains entity.key = false) :
    s.add [some entity] =
      { store := s.put entity own, added := [entity], updated := [], refused := [] } := by
  simp [add, Intake.offer, own, new]

theorem entries_add_singleton_of_new {s : Store} {entity : Entity}
    (own : entity.key.ns = s.ns) (new : s.contains entity.key = false) :
    (s.add [some entity]).store.entries = s.entries ++ [entity] := by
  rw [add_singleton_of_new own new, entries_put, new]
  rfl

end Store

end NetworkTopology
