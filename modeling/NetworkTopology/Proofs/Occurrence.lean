import Mathlib.Data.List.Basic
import Mathlib.Data.List.Induction
import Mathlib.Data.List.Perm.Subperm

/-!
# First and last occurrences

`List.eraseDups` keeps what comes first; `LastOf` says which items come last under
their key.  Both are followed along a list that grows at its end.
-/

namespace NetworkTopology

variable {α β γ : Type}

theorem eraseDups_concat [DecidableEq α] (items : List α) (item : α) :
    (items ++ [item]).eraseDups =
      if item ∈ items then items.eraseDups else items.eraseDups ++ [item] := by
  rw [List.eraseDups_append]
  by_cases h : item ∈ items
  · simp [h, List.removeAll]
  · simp [h, List.removeAll, List.eraseDups_cons]

theorem nodup_eraseDups [DecidableEq α] (items : List α) : items.eraseDups.Nodup := by
  induction items using List.reverseRecOn with
  | nil => exact List.nodup_nil
  | append_singleton items item ih =>
      rw [eraseDups_concat]
      split
      · exact ih
      · rename_i hnew
        refine List.nodup_append.mpr ⟨ih, List.pairwise_singleton _ _, ?_⟩
        intro other hother last hlast heq
        rw [List.mem_singleton.mp hlast] at heq
        exact hnew (List.mem_eraseDups.mp (heq ▸ hother))

theorem eraseDups_of_nodup [DecidableEq α] {items : List α} (h : items.Nodup) :
    items.eraseDups = items := by
  induction items using List.reverseRecOn with
  | nil => rfl
  | append_singleton items item ih =>
      obtain ⟨hnodup, -, hdisjoint⟩ := List.nodup_append.mp h
      have hnew : item ∉ items := fun hmem => hdisjoint item hmem item List.mem_cons_self rfl
      rw [eraseDups_concat, if_neg hnew, ih hnodup]

/-- Nothing is erased only if nothing comes twice. -/
theorem length_eraseDups_eq_iff [DecidableEq α] {items : List α} :
    items.eraseDups.length = items.length ↔ items.Nodup := by
  constructor
  · intro hlength
    have hsubset : items.eraseDups ⊆ items := fun _ => List.mem_eraseDups.mp
    have hsubperm := List.subperm_of_subset (nodup_eraseDups items) hsubset
    have hperm := hsubperm.perm_of_length_le (Nat.le_of_eq hlength.symm)
    exact hperm.nodup_iff.mp (nodup_eraseDups items)
  · intro hnodup
    rw [eraseDups_of_nodup hnodup]

/-- What comes again adds nothing. -/
theorem eraseDups_append_of_subset [DecidableEq α] {items more : List α} (h : more ⊆ items) :
    (items ++ more).eraseDups = items.eraseDups := by
  induction more using List.reverseRecOn with
  | nil => rw [List.append_nil]
  | append_singleton more item ih =>
      have hmem : item ∈ items := h (List.mem_append_right _ List.mem_cons_self)
      rw [← List.append_assoc, eraseDups_concat, if_pos (List.mem_append_left _ hmem)]
      exact ih fun other hother => h (List.mem_append_left _ hother)

theorem eraseDups_map [DecidableEq α] [DecidableEq β] {f : α → β} (hf : f.Injective)
    (items : List α) : (items.map f).eraseDups = items.eraseDups.map f := by
  induction items using List.reverseRecOn with
  | nil => rfl
  | append_singleton items item ih =>
      rw [List.map_append, List.map_singleton, eraseDups_concat, eraseDups_concat, ih]
      by_cases h : item ∈ items
      · rw [if_pos h, if_pos (List.mem_map_of_mem h)]
      · rw [if_neg h, if_neg fun hmem => h ((List.mem_map_of_injective hf).mp hmem),
          List.map_append, List.map_singleton]

/-- An item of a list whose key comes in no later one. -/
def LastOf (key : α → β) (items : List α) (item : α) : Prop :=
  ∃ front back, items = front ++ item :: back ∧ ∀ later ∈ back, key later ≠ key item

namespace LastOf

variable {key : α → β} {items : List α} {item : α}

theorem concat_iff {new : α} :
    LastOf key (items ++ [new]) item ↔
      item = new ∨ (LastOf key items item ∧ key item ≠ key new) := by
  constructor
  · rintro ⟨front, back, heq, hlast⟩
    rcases List.eq_nil_or_concat' back with rfl | ⟨back, last, rfl⟩
    · exact .inl (List.cons.inj (List.append_inj' heq rfl).2).1.symm
    · have hsplit : items ++ [new] = (front ++ item :: back) ++ [last] := by
        rw [heq, List.append_assoc, List.cons_append]
      obtain ⟨hitems, hnew⟩ := List.append_inj' hsplit rfl
      obtain rfl := (List.cons.inj hnew).1
      refine .inr ⟨⟨front, back, hitems, ?_⟩, ?_⟩
      · intro later hlater
        exact hlast later (List.mem_append_left _ hlater)
      · exact (hlast new (List.mem_append_right _ List.mem_cons_self)).symm
  · rintro (rfl | ⟨⟨front, back, rfl, hlast⟩, hne⟩)
    · exact ⟨items, [], rfl, fun _ h => absurd h List.not_mem_nil⟩
    · refine ⟨front, back ++ [new], by rw [List.append_assoc, List.cons_append], ?_⟩
      intro later hlater
      rcases List.mem_append.mp hlater with hlater | hlater
      · exact hlast later hlater
      · rw [List.mem_singleton.mp hlater]
        exact hne.symm

/-- What comes last among images is the image of what comes last. -/
theorem of_map {key : β → γ} {f : α → β} {image : β} (h : LastOf key (items.map f) image) :
    ∃ item, f item = image ∧ LastOf (fun other => key (f other)) items item := by
  obtain ⟨front, back, heq, hlast⟩ := h
  obtain ⟨items₁, rest, rfl, rfl, hrest⟩ := List.map_eq_append_iff.mp heq
  obtain ⟨item, items₂, rfl, rfl, rfl⟩ := List.map_eq_cons_iff.mp hrest
  refine ⟨item, rfl, items₁, items₂, rfl, ?_⟩
  intro later hlater
  exact hlast _ (List.mem_map_of_mem hlater)

theorem mem (h : LastOf key items item) : item ∈ items := by
  obtain ⟨front, back, rfl, -⟩ := h
  exact List.mem_append_right _ List.mem_cons_self

/-- Keys that tell the same items apart make the same items last. -/
theorem of_keys {key' : α → γ} (h : LastOf key items item)
    (hkeys : ∀ x ∈ items, ∀ y ∈ items, key' x = key' y → key x = key y) :
    LastOf key' items item := by
  obtain ⟨front, back, rfl, hlast⟩ := h
  refine ⟨front, back, rfl, ?_⟩
  intro later hlater heq
  have hmem : later ∈ front ++ item :: back :=
    List.mem_append_right _ (List.mem_cons_of_mem _ hlater)
  exact hlast later hlater
    (hkeys later hmem item (List.mem_append_right _ List.mem_cons_self) heq)

end LastOf

end NetworkTopology
