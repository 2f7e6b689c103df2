import NetworkTopology.Proofs.Store.Content

/-!
# Replaying change events

Whoever holds a copy of the listed content of a store can keep it up to date from
change events alone: what was added or updated is put into the place of its key
or at the end, and what was removed is deleted.  `replay_event` says that the
copy then is the new content, in the same order, although one mutation may add
an entity and update it at once.
-/

namespace NetworkTopology

/-! ## Copies -/

namespace Replica

/-- Puts an entity into the place of its key, or at the end. -/
def put (entity : Entity) : List Entity → List Entity
  | [] => [entity]
  | other :: rest =>
      if other.key = entity.key then entity :: rest else other :: put entity rest

def putAll (entities copy : List Entity) : List Entity :=
  entities.foldl (fun copy entity => put entity copy) copy

/-- Deletes the entry of an entity's key. -/
def delete (entity : Entity) (copy : List Entity) : List Entity :=
  copy.eraseP fun other => other.key == entity.key

/-- Deletes entries in order. -/
def deleteAll (entities copy : List Entity) : List Entity :=
  entities.foldl (fun copy entity => delete entity copy) copy

theorem put_of_not_mem {entity : Entity} {copy : List Entity}
    (h : entity.key ∉ copy.map Entity.key) : put entity copy = copy ++ [entity] := by
  induction copy with
  | nil => rfl
  | cons other rest ih =>
      rw [List.map_cons, List.mem_cons, not_or] at h
      rw [put, if_neg fun heq => h.1 heq.symm, ih h.2, List.cons_append]

theorem put_append_of_mem {entity : Entity} {copy : List Entity}
    (h : entity.key ∈ copy.map Entity.key) (rest : List Entity) :
    put entity (copy ++ rest) = put entity copy ++ rest := by
  induction copy with
  | nil => cases h
  | cons other copy ih =>
      by_cases heq : other.key = entity.key
      · rw [List.cons_append, put, put, if_pos heq, if_pos heq, List.cons_append]
      · rw [List.map_cons, List.mem_cons] at h
        have hmem := h.resolve_left fun hhead => heq hhead.symm
        rw [List.cons_append, put, put, if_neg heq, if_neg heq, ih hmem, List.cons_append]

/-- Putting an entity under a key that is there changes no key. -/
theorem map_key_put_of_mem {entity : Entity} {copy : List Entity}
    (h : entity.key ∈ copy.map Entity.key) :
    (put entity copy).map Entity.key = copy.map Entity.key := by
  induction copy with
  | nil => cases h
  | cons other copy ih =>
      by_cases heq : other.key = entity.key
      · rw [put, if_pos heq, List.map_cons, List.map_cons, heq]
      · rw [List.map_cons, List.mem_cons] at h
        have hmem := h.resolve_left fun hhead => heq hhead.symm
        rw [put, if_neg heq, List.map_cons, List.map_cons, ih hmem]

theorem map_key_putAll_of_mem {entities copy : List Entity}
    (h : ∀ entity ∈ entities, entity.key ∈ copy.map Entity.key) :
    (putAll entities copy).map Entity.key = copy.map Entity.key := by
  induction entities generalizing copy with
  | nil => rfl
  | cons entity entities ih =>
      have hkeys := map_key_put_of_mem (h entity List.mem_cons_self)
      have hrest : ∀ other ∈ entities, other.key ∈ (put entity copy).map Entity.key := by
        intro other hother
        rw [hkeys]
        exact h other (List.mem_cons_of_mem _ hother)
      exact (ih hrest).trans hkeys

/-- Updates do not reach what stands behind all keys that they update. -/
theorem putAll_append_of_mem {entities copy : List Entity}
    (h : ∀ entity ∈ entities, entity.key ∈ copy.map Entity.key) (rest : List Entity) :
    putAll entities (copy ++ rest) = putAll entities copy ++ rest := by
  induction entities generalizing copy with
  | nil => rfl
  | cons entity entities ih =>
      have hhead := h entity List.mem_cons_self
      have hrest : ∀ other ∈ entities, other.key ∈ (put entity copy).map Entity.key := by
        intro other hother
        rw [map_key_put_of_mem hhead]
        exact h other (List.mem_cons_of_mem _ hother)
      have hstep := ih hrest
      simp only [putAll, List.foldl_cons] at hstep ⊢
      rw [put_append_of_mem hhead, hstep]

theorem putAll_append (front back copy : List Entity) :
    putAll (front ++ back) copy = putAll back (putAll front copy) := by
  rw [putAll, putAll, putAll, List.foldl_append]

theorem deleteAll_append (front back copy : List Entity) :
    deleteAll (front ++ back) copy = deleteAll back (deleteAll front copy) := by
  rw [deleteAll, deleteAll, deleteAll, List.foldl_append]

theorem delete_head (entity : Entity) (rest : List Entity) :
    delete entity (entity :: rest) = rest := by
  rw [delete, List.eraseP_cons_of_pos (by simp)]

theorem deleteAll_self (copy : List Entity) : deleteAll copy copy = [] := by
  induction copy with
  | nil => rfl
  | cons entity rest ih =>
      rw [deleteAll, List.foldl_cons, delete_head]
      exact ih

/-- Where keys are distinct, deleting an entry leaves all others. -/
theorem delete_eq_filter {entity : Entity} {copy : List Entity}
    (nodup : (copy.map Entity.key).Nodup) :
    delete entity copy = copy.filter fun other => other.key != entity.key := by
  induction copy with
  | nil => rfl
  | cons other rest ih =>
      rw [List.map_cons, List.nodup_cons] at nodup
      by_cases heq : other.key = entity.key
      · have hall : ∀ x ∈ rest, (x.key != entity.key) = true := by
          intro x hx
          have hne : x.key ≠ entity.key := by
            intro hkey
            exact nodup.1 (List.mem_map.mpr ⟨x, hx, hkey.trans heq.symm⟩)
          simpa using hne
        rw [delete, List.eraseP_cons_of_pos (by simpa using heq),
          List.filter_cons_of_neg (by simpa using heq), List.filter_eq_self.mpr hall]
      · have hrest := ih nodup.2
        rw [delete] at hrest
        rw [delete, List.eraseP_cons_of_neg (by simpa using heq),
          List.filter_cons_of_pos (by simpa using heq), hrest]

end Replica

/-- What a copy of the content becomes when an event is applied to it. -/
def ChangeEvent.replay (event : ChangeEvent) (copy : List Entity) : List Entity :=
  Replica.deleteAll event.removed (Replica.putAll (event.added ++ event.updated) copy)

/-! ## Mutations -/

namespace Store

/-- A call that changes a store. -/
inductive Mutation where
  | add (entities : List (Option Entity))
  | remove (keys : List (Option Key))
  | clear

def mutate (s : Store) : Mutation → Store
  | .add entities => (s.add entities).store
  | .remove keys => (s.remove keys).store
  | .clear => s.clear

theorem mutate_ns (s : Store) (m : Mutation) : (s.mutate m).ns = s.ns := by
  cases m with
  | add entities => exact s.add_ns entities
  | remove keys => exact s.remove_ns keys
  | clear => rfl

def event? (s : Store) : Mutation → Option ChangeEvent
  | .add entities => (s.add entities).event?
  | .remove keys => (s.remove keys).event?
  | .clear => some s.clearEvent

/-- Does a mutation insert, replace or remove something, or clear the store? -/
def Touches (s : Store) : Mutation → Prop
  | .add entities => ∃ entity, some entity ∈ entities ∧ entity.key.ns = s.ns
  | .remove keys => ∃ key, some key ∈ keys ∧ s.contains key = true
  | .clear => True

theorem put_eq_replaceIn {entity : Entity} {entries : List Entity}
    (nodup : (entries.map Entity.key).Nodup) (h : entity.key ∈ entries.map Entity.key) :
    Replica.put entity entries = replaceIn entity entries := by
  induction entries with
  | nil => cases h
  | cons other rest ih =>
      rw [List.map_cons, List.nodup_cons] at nodup
      by_cases heq : other.key = entity.key
      · have hrest : ∀ x ∈ rest, (if x.key = entity.key then entity else x) = x := by
          intro x hx
          have hne : x.key ≠ entity.key := by
            intro hkey
            exact nodup.1 (List.mem_map.mpr ⟨x, hx, hkey.trans heq.symm⟩)
          rw [if_neg hne]
        rw [Replica.put, if_pos heq, replaceIn, List.map_cons, if_pos heq,
          List.map_congr_left hrest, List.map_id']
      · rw [List.map_cons, List.mem_cons] at h
        have hmem := h.resolve_left fun hhead => heq hhead.symm
        rw [Replica.put, if_neg heq, ih nodup.2 hmem, replaceIn, replaceIn, List.map_cons,
          if_neg heq]

theorem entries_put_eq (s : Store) (entity : Entity) (own : entity.key.ns = s.ns) :
    (s.put entity own).entries = Replica.put entity s.entries := by
  rw [entries_put]
  split
  · rename_i h
    exact (put_eq_replaceIn s.nodup (contains_iff_mem_keys.mp h)).symm
  · rename_i h
    have hnot : entity.key ∉ s.entries.map Entity.key := by
      rwa [← contains_iff_mem_keys]
    exact (Replica.put_of_not_mem hnot).symm

/-! ## Additions -/

/-- The lists of an intake account for how its store came about from a list of
entries: all additions first and then all updates lead there, too, and updates
concern only keys that are there after the additions. -/
structure Intake.Accounts (intake : Intake) (start : List Entity) : Prop where
  entries_eq : intake.store.entries =
    Replica.putAll intake.updated (Replica.putAll intake.added start)
  known : ∀ entity ∈ intake.updated,
    entity.key ∈ (Replica.putAll intake.added start).map Entity.key
  size_eq : intake.store.entries.length = start.length + intake.added.length

theorem Intake.Accounts.map_key {intake : Intake} {start : List Entity}
    (h : intake.Accounts start) : intake.store.entries.map Entity.key =
      (Replica.putAll intake.added start).map Entity.key := by
  rw [h.entries_eq, Replica.map_key_putAll_of_mem h.known]

theorem Intake.Accounts.update {intake : Intake} {start : List Entity}
    (h : intake.Accounts start) {entity : Entity} (own : entity.key.ns = intake.store.ns)
    (hcontains : intake.store.contains entity.key = true) :
    Intake.Accounts { intake with
      store := intake.store.put entity own, updated := intake.updated ++ [entity] } start := by
  have hmem := contains_iff_mem_keys.mp hcontains
  refine ⟨?_, ?_, ?_⟩
  · rw [entries_put_eq, h.entries_eq, Replica.putAll_append]
    rfl
  · intro other hother
    rcases List.mem_append.mp hother with hother | hother
    · exact h.known other hother
    · rw [List.mem_singleton.mp hother, ← h.map_key]
      exact hmem
  · rw [entries_put, if_pos hcontains, replaceIn, List.length_map, h.size_eq]

/-- An addition keeps the account: the new entity goes behind everything that
the updates reach. -/
theorem Intake.Accounts.append {intake : Intake} {start : List Entity}
    (h : intake.Accounts start) {entity : Entity} (own : entity.key.ns = intake.store.ns)
    (hcontains : ¬ intake.store.contains entity.key = true) :
    Intake.Accounts { intake with
      store := intake.store.put entity own, added := intake.added ++ [entity] } start := by
  have hnot : entity.key ∉ (Replica.putAll intake.added start).map Entity.key := by
    rwa [← h.map_key, ← contains_iff_mem_keys]
  have hadded : Replica.putAll (intake.added ++ [entity]) start =
      Replica.putAll intake.added start ++ [entity] := by
    rw [Replica.putAll_append]
    exact Replica.put_of_not_mem hnot
  refine ⟨?_, ?_, ?_⟩
  · rw [entries_put, if_neg hcontains, hadded, Replica.putAll_append_of_mem h.known,
      h.entries_eq]
  · intro other hother
    rw [hadded, List.map_append]
    exact List.mem_append_left _ (h.known other hother)
  · have hsize := h.size_eq
    rw [entries_put, if_neg hcontains]
    simp only [List.length_append, List.length_singleton]
    omega

theorem Intake.Accounts.offer {intake : Intake} {start : List Entity}
    (h : intake.Accounts start) (entity : Option Entity) :
    (intake.offer entity).Accounts start := by
  cases entity with
  | none => exact h
  | some entity =>
      by_cases own : entity.key.ns = intake.store.ns
      · by_cases hcontains : intake.store.contains entity.key = true
        · simp only [Intake.offer, dif_pos own, if_pos hcontains]
          exact h.update own hcontains
        · simp only [Intake.offer, dif_pos own, if_neg hcontains]
          exact h.append own hcontains
      · simp only [Intake.offer, dif_neg own]
        exact ⟨h.entries_eq, h.known, h.size_eq⟩

theorem add_accounts (s : Store) (entities : List (Option Entity)) :
    (s.add entities).Accounts s.entries := by
  suffices h : ∀ intake : Intake, intake.Accounts s.entries →
      (entities.foldl Intake.offer intake).Accounts s.entries from
    h { store := s } ⟨rfl, by simp, rfl⟩
  induction entities with
  | nil =>
      intro intake h
      exact h
  | cons entity entities ih =>
      intro intake h
      exact ih _ (h.offer entity)

/-- An intake stays without an event as long as nothing of the namespace is
offered. -/
theorem Intake.offer_untouched_iff {intake : Intake} {entity : Option Entity} :
    ((intake.offer entity).added = [] ∧ (intake.offer entity).updated = []) ↔
      (intake.added = [] ∧ intake.updated = []) ∧
        ∀ taken, entity = some taken → taken.key.ns ≠ intake.store.ns := by
  cases entity with
  | none => simp [Intake.offer]
  | some entity =>
      by_cases own : entity.key.ns = intake.store.ns
      · by_cases hcontains : intake.store.contains entity.key = true
        · simp [Intake.offer, own, hcontains]
        · simp [Intake.offer, own, hcontains]
      · simp [Intake.offer, own]

theorem add_untouched_iff (s : Store) (entities : List (Option Entity)) :
    ((s.add entities).added = [] ∧ (s.add entities).updated = []) ↔
      ∀ entity, some entity ∈ entities → entity.key.ns ≠ s.ns := by
  suffices h : ∀ intake : Intake,
      (((entities.foldl Intake.offer intake).added = [] ∧
        (entities.foldl Intake.offer intake).updated = []) ↔
        (intake.added = [] ∧ intake.updated = []) ∧
          ∀ entity, some entity ∈ entities → entity.key.ns ≠ intake.store.ns) by
    have hstart := h { store := s }
    simp only [true_and] at hstart
    exact hstart
  induction entities with
  | nil =>
      intro intake
      simp
  | cons entity entities ih =>
      intro intake
      rw [List.foldl_cons, ih, Intake.offer_untouched_iff, Intake.offer_ns, and_assoc]
      apply and_congr_right
      intro _
      constructor
      · rintro ⟨hhead, hrest⟩ other hother
        rcases List.mem_cons.mp hother with heq | hother
        · exact hhead other heq.symm
        · exact hrest other hother
      · intro h
        exact ⟨fun other heq => h other (by rw [heq]; exact List.mem_cons_self),
          fun other hother => h other (List.mem_cons_of_mem _ hother)⟩

/-! ## Removals -/

/-- The removed entities account for how the store came about from a list of
entries. -/
structure Removal.Accounts (removal : Removal) (start : List Entity) : Prop where
  entries_eq : removal.store.entries = Replica.deleteAll removal.removed start
  size_eq : removal.store.entries.length + removal.removed.length = start.length

theorem Removal.Accounts.drop {removal : Removal} {start : List Entity}
    (h : removal.Accounts start) (key : Option Key) : (removal.drop key).Accounts start := by
  cases key with
  | none => exact h
  | some key =>
      cases hfind : removal.store.find? key with
      | none =>
          simp only [Removal.drop, hfind]
          exact h
      | some entity =>
          obtain ⟨hmem, rfl⟩ := find?_eq_some_iff.mp hfind
          have herase : (removal.store.erase entity.key).entries =
              Replica.delete entity removal.store.entries := by
            rw [entries_erase, Replica.delete_eq_filter removal.store.nodup]
          simp only [Removal.drop, hfind]
          refine ⟨?_, ?_⟩
          · show (removal.store.erase entity.key).entries = _
            rw [herase, Replica.deleteAll_append, h.entries_eq]
            rfl
          · show (removal.store.erase entity.key).entries.length + _ = _
            have hlength : (Replica.delete entity removal.store.entries).length =
                removal.store.entries.length - 1 :=
              List.length_eraseP_of_mem hmem (by simp)
            have hpos : 0 < removal.store.entries.length := List.length_pos_of_mem hmem
            have hsize := h.size_eq
            rw [herase, hlength, List.length_append, List.length_singleton]
            omega

theorem remove_accounts (s : Store) (keys : List (Option Key)) :
    (s.remove keys).Accounts s.entries := by
  suffices h : ∀ removal : Removal, removal.Accounts s.entries →
      (keys.foldl Removal.drop removal).Accounts s.entries from
    h { store := s } ⟨rfl, rfl⟩
  induction keys with
  | nil =>
      intro removal h
      exact h
  | cons key keys ih =>
      intro removal h
      exact ih _ (h.drop key)

theorem remove_untouched_iff (s : Store) (keys : List (Option Key)) :
    (s.remove keys).removed = [] ↔ ∀ key, some key ∈ keys → s.contains key = false := by
  suffices h : ∀ removal : Removal,
      ((keys.foldl Removal.drop removal).removed = [] ↔
        removal.removed = [] ∧
          ∀ key, some key ∈ keys → removal.store.contains key = false) by
    have hstart := h { store := s }
    simp only [true_and] at hstart
    exact hstart
  induction keys with
  | nil =>
      intro removal
      simp
  | cons key keys ih =>
      intro removal
      rw [List.foldl_cons, ih]
      cases key with
      | none => simp [Removal.drop]
      | some key =>
          cases hfind : removal.store.find? key with
          | none =>
              have hnot := find?_eq_none_iff.mp hfind
              simp only [Removal.drop, hfind, List.mem_cons, Option.some.injEq]
              apply and_congr_right
              intro _
              constructor
              · rintro h other (rfl | hother)
                · exact hnot
                · exact h other hother
              · intro h other hother
                exact h other (.inr hother)
          | some entity =>
              obtain ⟨hmem, rfl⟩ := find?_eq_some_iff.mp hfind
              have hcontains := contains_iff.mpr ⟨entity, hmem, rfl⟩
              simp only [Removal.drop, hfind]
              constructor
              · rintro ⟨hremoved, -⟩
                simp at hremoved
              · rintro ⟨-, h⟩
                rw [h entity.key List.mem_cons_self] at hcontains
                cases hcontains

/-! ## Events -/

theorem event?_isSome_iff {s : Store} {m : Mutation} :
    (s.event? m).isSome = true ↔ s.Touches m := by
  cases m with
  | add entities =>
      have huntouched := add_untouched_iff s entities
      have hevent : (s.event? (.add entities)).isSome = true ↔
          ¬ ((s.add entities).added = [] ∧ (s.add entities).updated = []) := by
        simp only [event?, Intake.event?, Bool.and_eq_true, List.isEmpty_iff]
        split <;> simp_all
      rw [hevent, huntouched]
      simp [Touches]
  | remove keys =>
      have huntouched := remove_untouched_iff s keys
      have hevent : (s.event? (.remove keys)).isSome = true ↔
          ¬ (s.remove keys).removed = [] := by
        simp only [event?, Removal.event?, List.isEmpty_iff]
        split <;> simp_all
      rw [hevent, huntouched]
      simp [Touches]
  | clear => simp [event?, Touches]

/-- A mutation without an event changes nothing. -/
theorem entries_mutate_of_event?_eq_none {s : Store} {m : Mutation}
    (h : s.event? m = none) : (s.mutate m).entries = s.entries := by
  cases m with
  | add entities =>
      have hempty : (s.add entities).added = [] ∧ (s.add entities).updated = [] := by
        simpa [event?, Intake.event?] using h
      have hentries := (s.add_accounts entities).entries_eq
      rw [hempty.1, hempty.2] at hentries
      exact hentries
  | remove keys =>
      have hempty : (s.remove keys).removed = [] := by
        simpa [event?, Removal.event?] using h
      have hentries := (s.remove_accounts keys).entries_eq
      rw [hempty] at hentries
      exact hentries
  | clear => cases h

/-- Applied to a copy of the content before a mutation, its event makes the
content after it. -/
theorem replay_event {s : Store} {m : Mutation} {event : ChangeEvent}
    (h : s.event? m = some event) : event.replay s.entries = (s.mutate m).entries := by
  cases m with
  | add entities =>
      simp only [event?, Intake.event?] at h
      split at h
      · cases h
      · cases h
        rw [mutate, (s.add_accounts entities).entries_eq, ChangeEvent.replay,
          Replica.putAll_append]
        rfl
  | remove keys =>
      simp only [event?, Removal.event?] at h
      split at h
      · cases h
      · cases h
        rw [mutate, (s.remove_accounts keys).entries_eq]
        rfl
  | clear =>
      cases h
      exact Replica.deleteAll_self s.entries

/-- The number of entities changes by what an event adds and removes. -/
theorem size_event {s : Store} {m : Mutation} {event : ChangeEvent}
    (h : s.event? m = some event) :
    (s.mutate m).entries.length + event.removed.length =
      s.entries.length + event.added.length := by
  cases m with
  | add entities =>
      have hsize := (s.add_accounts entities).size_eq
      simp only [event?, Intake.event?] at h
      split at h
      · cases h
      · cases h
        exact hsize
  | remove keys =>
      have hsize := (s.remove_accounts keys).size_eq
      simp only [event?, Removal.event?] at h
      split at h
      · cases h
      · cases h
        exact hsize
  | clear =>
      cases h
      exact Nat.zero_add _

end Store

end NetworkTopology
