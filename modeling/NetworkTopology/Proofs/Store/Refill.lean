import NetworkTopology.Proofs.Occurrence
import NetworkTopology.Proofs.Store.Replay

/-!
# Filling an empty store

Entities of its namespace that are put into an empty store come to stand there once
for each key, in the order in which the keys came first; a key stands for the
entity that came last under it.
-/

namespace NetworkTopology

namespace Replica

variable {entity other : Entity} {entities copy : List Entity}

theorem map_key_put (entity : Entity) (copy : List Entity) :
    (put entity copy).map Entity.key =
      if entity.key ∈ copy.map Entity.key then copy.map Entity.key
      else copy.map Entity.key ++ [entity.key] := by
  split
  · rename_i h
    exact map_key_put_of_mem h
  · rename_i h
    rw [put_of_not_mem h, List.map_append, List.map_singleton]

theorem mem_put_iff (nodup : (copy.map Entity.key).Nodup) :
    other ∈ put entity copy ↔ other = entity ∨ (other ∈ copy ∧ other.key ≠ entity.key) := by
  by_cases h : entity.key ∈ copy.map Entity.key
  · obtain ⟨old, hold, hkey⟩ := List.mem_map.mp h
    rw [Store.put_eq_replaceIn nodup h, Store.replaceIn, List.mem_map]
    constructor
    · rintro ⟨x, hx, rfl⟩
      by_cases hx' : x.key = entity.key
      · exact .inl (if_pos hx')
      · rw [if_neg hx']
        exact .inr ⟨hx, hx'⟩
    · rintro (rfl | ⟨hmem, hne⟩)
      · exact ⟨old, hold, if_pos hkey⟩
      · exact ⟨other, hmem, if_neg hne⟩
  · have hall : other ∈ copy → other.key ≠ entity.key := by
      intro hmem heq
      exact h (heq ▸ List.mem_map_of_mem hmem)
    rw [put_of_not_mem h, List.mem_append, List.mem_singleton]
    constructor
    · rintro (hmem | rfl)
      · exact .inr ⟨hmem, hall hmem⟩
      · exact .inl rfl
    · rintro (rfl | ⟨hmem, -⟩)
      · exact .inr rfl
      · exact .inl hmem

theorem putAll_concat (entities : List Entity) (entity : Entity) (copy : List Entity) :
    putAll (entities ++ [entity]) copy = put entity (putAll entities copy) := by
  rw [putAll_append]
  rfl

/-- The keys of what was put, in the order in which they came first. -/
theorem map_key_putAll_nil (entities : List Entity) :
    (putAll entities []).map Entity.key = (entities.map Entity.key).eraseDups := by
  induction entities using List.reverseRecOn with
  | nil => rfl
  | append_singleton entities entity ih =>
      rw [putAll_concat, map_key_put, ih, List.map_append, List.map_singleton,
        eraseDups_concat]
      simp only [List.mem_eraseDups]

theorem nodup_putAll_nil (entities : List Entity) :
    ((putAll entities []).map Entity.key).Nodup := by
  rw [map_key_putAll_nil]
  exact nodup_eraseDups _

/-- What stands under a key is what was put last. -/
theorem mem_putAll_nil_iff :
    entity ∈ putAll entities [] ↔ LastOf Entity.key entities entity := by
  induction entities using List.reverseRecOn with
  | nil =>
      constructor
      · intro h
        cases h
      · intro h
        cases h.mem
  | append_singleton entities new ih =>
      rw [putAll_concat, mem_put_iff (nodup_putAll_nil entities), ih, LastOf.concat_iff]

/-- Under distinct keys everything that was put stays as it is. -/
theorem putAll_nil_of_nodup (nodup : (entities.map Entity.key).Nodup) :
    putAll entities [] = entities := by
  induction entities using List.reverseRecOn with
  | nil => rfl
  | append_singleton entities entity ih =>
      rw [List.map_append, List.map_singleton, List.nodup_append] at nodup
      obtain ⟨hnodup, -, hdisjoint⟩ := nodup
      have hnew : entity.key ∉ entities.map Entity.key := by
        intro hmem
        exact hdisjoint _ hmem _ List.mem_cons_self rfl
      rw [putAll_concat, ih hnodup, put_of_not_mem hnew]

end Replica

namespace Store

theorem Intake.entries_offer {intake : Intake} {entity : Entity}
    (own : entity.key.ns = intake.store.ns) :
    (intake.offer (some entity)).store.entries = Replica.put entity intake.store.entries := by
  have hstore : (intake.offer (some entity)).store = intake.store.put entity own := by
    simp only [Intake.offer, dif_pos own]
    split <;> rfl
  rw [hstore, entries_put_eq]

theorem entries_add_of_own {s : Store} {entities : List Entity}
    (own : ∀ entity ∈ entities, entity.key.ns = s.ns) :
    (s.add (entities.map some)).store.entries = Replica.putAll entities s.entries := by
  suffices h : ∀ intake : Intake, intake.store.ns = s.ns →
      ((entities.map some).foldl Intake.offer intake).store.entries =
        Replica.putAll entities intake.store.entries from h { store := s } rfl
  induction entities with
  | nil =>
      intro intake _
      rfl
  | cons entity entities ih =>
      intro intake hns
      have hentity : entity.key.ns = intake.store.ns :=
        (own entity List.mem_cons_self).trans hns.symm
      rw [List.map_cons, List.foldl_cons,
        ih (fun other hother => own other (List.mem_cons_of_mem _ hother)) _
          ((Intake.offer_ns _ _).trans hns),
        Intake.entries_offer hentity]
      rfl

end Store

end NetworkTopology
