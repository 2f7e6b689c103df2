import Mathlib.Algebra.BigOperators.Group.List.Basic
import Mathlib.Algebra.GroupWithZero.Nat
import Mathlib.Data.List.Count
import NetworkTopology.Proofs.Graph.Adjacency

/-!
# The counts in an adjacency matrix

An adjacency matrix is a table over ids in ascending order.  A cell counts the edges
between the ids of its row and its column, whichever comes first, and a row sums up to
the number of edges that have its id at an end.
-/

namespace NetworkTopology

namespace Edge

variable {e : Edge}

/-- The ids at the ends of an edge, whichever comes first. -/
def endIds (e : Edge) : Sym2 String :=
  s(e.sourceKey.id, e.targetKey.id)

theorem endIds_eq_iff {a b : String} :
    e.endIds = s(a, b) ↔
      (a = e.sourceKey.id ∧ b = e.targetKey.id) ∨ (a = e.targetKey.id ∧ b = e.sourceKey.id) := by
  rw [endIds, Sym2.eq_iff]
  tauto

theorem mem_endIds {id : String} :
    id ∈ e.endIds ↔ e.sourceKey.id = id ∨ e.targetKey.id = id := by
  rw [endIds, Sym2.mem_iff, eq_comm, @eq_comm _ id]

end Edge

namespace AdjacencyMatrix

variable {ids : List String} {edges : List Edge} {e : Edge} {source target : String} {i j : Nat}

/-! ## Tables -/

/-- A table with a row and a column for each id. -/
def table (ids : List String) (value : String → String → Nat) : List (List Nat) :=
  ids.map fun a => ids.map (value a)

theorem table_congr {value value' : String → String → Nat}
    (h : ∀ a ∈ ids, ∀ b ∈ ids, value a b = value' a b) : table ids value = table ids value' := by
  apply List.map_congr_left
  intro a ha
  apply List.map_congr_left
  exact h a ha

theorem modify_map {β : Type} (hids : ids.Nodup) (hi : ids.idxOf? source = some i)
    (value : String → β) (change : β → β) :
    (ids.map value).modify i change =
      ids.map fun a => if a = source then change (value a) else value a := by
  obtain ⟨hlt, hsource, -⟩ := List.idxOf?_eq_some_iff.mp hi
  apply List.ext_getElem
  · rw [List.length_modify, List.length_map, List.length_map]
  · intro k hk hk'
    rw [List.length_map] at hk'
    have hplace : i = k ↔ ids[k] = source := by
      rw [← hsource, hids.getElem_inj_iff, eq_comm]
    rw [List.getElem_modify, List.getElem_map, List.getElem_map]
    exact if_congr hplace rfl rfl

theorem bump_table (hids : ids.Nodup) (hi : ids.idxOf? source = some i)
    (hj : ids.idxOf? target = some j) (value : String → String → Nat) :
    bump (table ids value) i j = table ids fun a b =>
      if a = source ∧ b = target then value a b + 1 else value a b := by
  rw [bump, table, modify_map hids hi]
  apply List.map_congr_left
  intro a _
  by_cases ha : a = source
  · rw [if_pos ha, modify_map hids hj]
    simp only [ha, true_and]
  · simp only [ha, false_and, if_false]

/-! ## Counting edges -/

theorem count_of_absent (h : e.sourceKey.id ∉ ids ∨ e.targetKey.id ∉ ids)
    (rows : List (List Nat)) : count ids rows e = rows := by
  unfold count
  rcases h with h | h
  · rw [List.idxOf?_eq_none_iff.mpr h]
  · rw [List.idxOf?_eq_none_iff.mpr h]
    cases ids.idxOf? e.sourceKey.id <;> rfl

/-- An edge counts in the cell of its ids and, unless they are the same, in the one
across. -/
theorem count_table_of_places (hids : ids.Nodup) (hi : ids.idxOf? e.sourceKey.id = some i)
    (hj : ids.idxOf? e.targetKey.id = some j) (value : String → String → Nat) :
    count ids (table ids value) e = table ids fun a b =>
      if e.endIds = s(a, b) then value a b + 1 else value a b := by
  obtain ⟨_, hsource, -⟩ := List.idxOf?_eq_some_iff.mp hi
  obtain ⟨_, htarget, -⟩ := List.idxOf?_eq_some_iff.mp hj
  have hplaces : i = j ↔ e.sourceKey.id = e.targetKey.id := by
    rw [← hsource, ← htarget, hids.getElem_inj_iff]
  simp only [count, hi, hj, Edge.endIds_eq_iff]
  by_cases h : i = j
  · rw [if_pos h, bump_table hids hi hj]
    simp only [hplaces.mp h, or_self]
  · have hapart : e.sourceKey.id ≠ e.targetKey.id := fun heq => h (hplaces.mpr heq)
    rw [if_neg h, bump_table hids hi hj, bump_table hids hj hi]
    -- The ids differ, so no cell is met both ways.
    apply table_congr
    intro a _ b _
    by_cases hforth : a = e.sourceKey.id ∧ b = e.targetKey.id
    · have hback : ¬ (a = e.targetKey.id ∧ b = e.sourceKey.id) := by
        rintro ⟨heq, -⟩
        exact hapart (hforth.1.symm.trans heq)
      rw [if_neg hback, if_pos hforth, if_pos (.inl hforth)]
    · by_cases hback : a = e.targetKey.id ∧ b = e.sourceKey.id
      · rw [if_pos hback, if_neg hforth, if_pos (.inr hback)]
      · rw [if_neg hback, if_neg hforth, if_neg (not_or.mpr ⟨hforth, hback⟩)]

/-- To count an edge is to add one wherever its ids meet. -/
theorem count_table (hids : ids.Nodup) (e : Edge) (value : String → String → Nat) :
    count ids (table ids value) e = table ids fun a b =>
      if e.endIds = s(a, b) then value a b + 1 else value a b := by
  by_cases habsent : e.sourceKey.id ∉ ids ∨ e.targetKey.id ∉ ids
  · rw [count_of_absent habsent]
    apply table_congr
    intro a ha b hb
    rw [if_neg]
    rw [Edge.endIds_eq_iff]
    rintro (⟨rfl, rfl⟩ | ⟨rfl, rfl⟩)
    · exact habsent.elim (fun h => h ha) fun h => h hb
    · exact habsent.elim (fun h => h hb) fun h => h ha
  · have hplace : ∀ {id : String}, ¬ id ∉ ids → ∃ i, ids.idxOf? id = some i := by
      intro id hid
      rw [← List.idxOf?_eq_none_iff] at hid
      exact Option.ne_none_iff_exists'.mp hid
    obtain ⟨hsource, htarget⟩ := not_or.mp habsent
    obtain ⟨i, hi⟩ := hplace hsource
    obtain ⟨j, hj⟩ := hplace htarget
    exact count_table_of_places hids hi hj value

theorem foldl_count_table (hids : ids.Nodup) (edges : List Edge)
    (value : String → String → Nat) :
    edges.foldl (count ids) (table ids value) = table ids fun a b =>
      value a b + edges.countP fun e => e.endIds = s(a, b) := by
  induction edges generalizing value with
  | nil => rfl
  | cons e edges ih =>
      rw [List.foldl_cons, count_table hids, ih]
      apply table_congr
      intro a _ b _
      rw [List.countP_cons]
      by_cases h : e.endIds = s(a, b)
      · simp only [h, if_true, decide_true]
        omega
      · simp only [h, if_false, decide_false]
        rfl

/-- A matrix has the ids in ascending order, and its cells count the edges between
them. -/
theorem make_eq (hids : ids.Nodup) (edges : List Edge) :
    make ids edges =
      { ids := sortIds ids
        rows := table (sortIds ids) fun a b => edges.countP fun e => e.endIds = s(a, b) } := by
  have hsorted : (sortIds ids).Nodup := (sortIds_perm ids).nodup_iff.mpr hids
  have hzeros : List.replicate (sortIds ids).length (List.replicate (sortIds ids).length 0) =
      table (sortIds ids) fun _ _ => 0 := by
    simp only [table, List.map_const']
  simp only [make, hzeros, foldl_count_table hsorted, Nat.zero_add]

/-! ## Rows -/

/-- Of the cells in the row of an id, an edge counts in one if the id is at one of its
ends, and in none otherwise. -/
theorem sum_endIds (hids : ids.Nodup) (hsource : e.sourceKey.id ∈ ids)
    (htarget : e.targetKey.id ∈ ids) (id : String) :
    (ids.map fun b => if e.endIds = s(id, b) then 1 else 0).sum =
      if id ∈ e.endIds then 1 else 0 := by
  by_cases h : id ∈ e.endIds
  · obtain ⟨other, hother⟩ := Sym2.mem_iff_exists.mp h
    have hmem : other ∈ ids := by
      have hend : other ∈ e.endIds := by
        rw [hother]
        exact Sym2.mem_mk_right id other
      rcases Edge.mem_endIds.mp hend with rfl | rfl
      · exact hsource
      · exact htarget
    rw [if_pos h, List.sum_map_eq_nsmul_single other, List.count_eq_one_of_mem hids hmem,
      if_pos hother, one_smul]
    intro b hb _
    rw [if_neg]
    rw [hother, Sym2.congr_right]
    exact hb.symm
  · rw [if_neg h]
    apply List.sum_eq_zero
    intro n hn
    obtain ⟨b, -, rfl⟩ := List.mem_map.mp hn
    rw [if_neg]
    intro heq
    apply h
    rw [heq]
    exact Sym2.mem_mk_left id b

/-- The row of an id sums up to the number of edges that have it at an end. -/
theorem sum_row (hids : ids.Nodup)
    (hends : ∀ e ∈ edges, e.sourceKey.id ∈ ids ∧ e.targetKey.id ∈ ids) (id : String) :
    (ids.map fun b => edges.countP fun e => e.endIds = s(id, b)).sum =
      edges.countP fun e => id ∈ e.endIds := by
  induction edges with
  | nil => simp
  | cons e edges ih =>
      obtain ⟨⟨hsource, htarget⟩, hrest⟩ := List.forall_mem_cons.mp hends
      have hhead := sum_endIds hids hsource htarget id
      simp only [List.countP_cons, decide_eq_true_eq]
      rw [List.sum_map_add, ih hrest, hhead]

end AdjacencyMatrix

end NetworkTopology
