/-!
# Steps that may fail

What a computation of two steps comes to, read back from its outcome.
-/

namespace NetworkTopology.Result

variable {ε α β : Type} {x : Except ε α} {f : α → Except ε β}

theorem of_bind_ok {b : β} (h : x >>= f = .ok b) : ∃ a, x = .ok a ∧ f a = .ok b := by
  cases x with
  | error fault => cases h
  | ok a => exact ⟨a, rfl, h⟩

/-- Two steps fail if the first does, or else the second. -/
theorem of_bind_error {fault : ε} (h : x >>= f = .error fault) :
    x = .error fault ∨ ∃ a, x = .ok a ∧ f a = .error fault := by
  cases x with
  | error other =>
      cases h
      exact .inl rfl
  | ok a => exact .inr ⟨a, rfl, h⟩

/-- Where each item can be taken, all can be, one after the other. -/
theorem mapM_of_forall {step : α → Except ε β} {value : α → β} {items : List α}
    (h : ∀ item ∈ items, step item = .ok (value item)) :
    items.mapM step = .ok (items.map value) := by
  induction items with
  | nil => rfl
  | cons item items ih =>
      rw [List.mapM_cons, h item List.mem_cons_self,
        ih fun other hmem => h other (List.mem_cons_of_mem item hmem)]
      rfl

theorem of_mapM_ok {step : α → Except ε β} {items : List α} {values : List β}
    (h : items.mapM step = .ok values) {item : α} (hitem : item ∈ items) :
    ∃ value, step item = .ok value := by
  induction items generalizing values with
  | nil => cases hitem
  | cons other items ih =>
      rw [List.mapM_cons] at h
      obtain ⟨value, hvalue, h⟩ := of_bind_ok h
      obtain ⟨rest, hrest, -⟩ := of_bind_ok h
      rcases List.mem_cons.mp hitem with rfl | hitem
      · exact ⟨value, hvalue⟩
      · exact ih hrest hitem

end NetworkTopology.Result
