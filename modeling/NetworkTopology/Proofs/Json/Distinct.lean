import Mathlib.Data.List.Nodup
import NetworkTopology.Json.Basic

/-!
# Fields that are told apart

Fields are distinct when no name is set twice.  Setting fields keeps them distinct, and
where fields are distinct, merging them into others lets each of them win.
-/

namespace NetworkTopology

namespace Fields

/-- No two fields have the same name. -/
def Distinct (fields : Fields) : Prop :=
  (fields.map Prod.fst).Nodup

variable {fields more : Fields} {name : String} {value : Json}

theorem distinct_nil : Distinct [] :=
  List.nodup_nil

theorem map_fst_set (fields : Fields) (name : String) (value : Json) :
    (fields.set name value).map Prod.fst =
      if name ∈ fields.map Prod.fst then fields.map Prod.fst
      else fields.map Prod.fst ++ [name] := by
  induction fields with
  | nil => rfl
  | cons field fields ih =>
      obtain ⟨n, v⟩ := field
      rw [set]
      by_cases h : n = name
      · rw [if_pos h, List.map_cons, List.map_cons, if_pos (h ▸ List.mem_cons_self)]
      · have hmem : name ∈ n :: fields.map Prod.fst ↔ name ∈ fields.map Prod.fst := by
          rw [List.mem_cons, or_iff_right (Ne.symm h)]
        rw [if_neg h, List.map_cons, List.map_cons, ih]
        simp only [hmem]
        split <;> rfl

theorem Distinct.set (h : fields.Distinct) (name : String) (value : Json) :
    Distinct (fields.set name value) := by
  rw [Distinct, map_fst_set]
  split
  · exact h
  · rename_i hnew
    refine List.nodup_append.mpr ⟨h, List.nodup_singleton name, ?_⟩
    intro other hother last hlast heq
    rw [List.mem_singleton.mp hlast] at heq
    exact hnew (heq ▸ hother)

theorem Distinct.without (h : fields.Distinct) (names : List String) :
    Distinct (fields.without names) :=
  List.Nodup.sublist (List.filter_sublist.map _) h

theorem mem_set {field : String × Json} (h : field ∈ fields.set name value) :
    field = (name, value) ∨ field ∈ fields := by
  induction fields with
  | nil => exact .inl (List.mem_singleton.mp h)
  | cons first fields ih =>
      obtain ⟨n, v⟩ := first
      rw [set] at h
      split at h
      · rename_i hname
        rcases List.mem_cons.mp h with hnew | hold
        · exact .inl (hname ▸ hnew)
        · exact .inr (List.mem_cons_of_mem _ hold)
      · rcases List.mem_cons.mp h with hfirst | hrest
        · exact .inr (hfirst ▸ List.mem_cons_self)
        · rcases ih hrest with hnew | hold
          · exact .inl hnew
          · exact .inr (List.mem_cons_of_mem _ hold)

theorem mem_merge {field : String × Json} (h : field ∈ fields.merge more) :
    field ∈ more ∨ field ∈ fields := by
  induction more generalizing fields with
  | nil => exact .inr h
  | cons first more ih =>
      have hstep : fields.merge (first :: more) = (fields.set first.1 first.2).merge more := rfl
      rw [hstep] at h
      rcases ih h with hmore | hset
      · exact .inl (List.mem_cons_of_mem first hmore)
      · rcases mem_set hset with hfirst | hold
        · exact .inl (hfirst ▸ List.mem_cons_self)
        · exact .inr hold

/-! ## Values -/

theorem mem_of_get? (h : fields.get? name = some value) : (name, value) ∈ fields := by
  induction fields with
  | nil => cases h
  | cons field fields ih =>
      obtain ⟨n, v⟩ := field
      rw [get?] at h
      split at h
      · rename_i hname
        cases h
        rw [← hname]
        exact List.mem_cons_self
      · exact List.mem_cons_of_mem _ (ih h)

theorem get?_eq_none (h : name ∉ fields.map Prod.fst) : fields.get? name = none := by
  cases hget : fields.get? name with
  | none => rfl
  | some value => exact absurd (List.mem_map_of_mem (mem_of_get? hget)) h

/-- What is merged into fields wins over them. -/
theorem get?_merge (h : more.Distinct) :
    (fields.merge more).get? name = (more.get? name).or (fields.get? name) := by
  induction more generalizing fields with
  | nil => rfl
  | cons field more ih =>
      obtain ⟨n, v⟩ := field
      obtain ⟨hnew, hdistinct⟩ := List.nodup_cons.mp h
      have hstep : fields.merge ((n, v) :: more) = (fields.set n v).merge more := rfl
      rw [hstep, ih hdistinct, get?]
      by_cases hname : n = name
      · subst hname
        rw [if_pos rfl, get?_eq_none hnew, get?_set_self]
        rfl
      · rw [if_neg hname, get?_set_of_ne fields v (Ne.symm hname)]

end Fields

namespace Json

/-- A document in which the fields of every object are distinct. -/
inductive Distinct : Json → Prop
  | null : Distinct null
  | bool (value : Bool) : Distinct (bool value)
  | int (value : Int) : Distinct (int value)
  | float (value : Binary64) : Distinct (float value)
  | str (value : String) : Distinct (str value)
  | arr {items : List Json} (h : ∀ item ∈ items, Distinct item) : Distinct (arr items)
  | obj {fields : Fields} (names : fields.Distinct)
      (h : ∀ field ∈ fields, Distinct field.2) : Distinct (obj fields)

end Json

end NetworkTopology
