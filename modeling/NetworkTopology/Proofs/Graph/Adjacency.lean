import Mathlib.Data.List.Perm.Basic
import Mathlib.Data.Sym.Sym2
import NetworkTopology.Graph.Adjacency

/-!
# Adjacency matrices and the order of edges

An adjacency matrix counts pairs of ends.  It depends neither on the order of the
edges nor on which end of an edge is its source.
-/

namespace NetworkTopology

/-! ## Sorted ids -/

theorem sortIds_perm (ids : List String) : (sortIds ids).Perm ids :=
  List.mergeSort_perm ids _

theorem sortIds_increasing {ids : List String} (h : ids.Nodup) :
    (sortIds ids).Pairwise (· < ·) := by
  have hle : ∀ a b : String, (!decide (b < a)) = true ↔ a ≤ b := by
    intro a b
    rw [Bool.not_eq_true', decide_eq_false_iff_not, String.not_lt]
  have hsorted : (sortIds ids).Pairwise fun a b => (!decide (b < a)) = true := by
    apply List.pairwise_mergeSort
    · intro a b c hab hbc
      exact (hle a c).mpr (String.le_trans ((hle a b).mp hab) ((hle b c).mp hbc))
    · intro a b
      rw [Bool.or_eq_true, hle, hle]
      exact String.le_total a b
  have hnodup : (sortIds ids).Nodup := (sortIds_perm ids).nodup_iff.mpr h
  refine (hsorted.and hnodup).imp ?_
  rintro a b ⟨hab, hne⟩
  rw [← String.not_le]
  exact fun hba => hne (String.le_antisymm ((hle a b).mp hab) hba)

/-! ## Pairs of ends -/

/-- The ends of an edge, whichever comes first. -/
def Edge.ends (e : Edge) : Sym2 Key :=
  s(e.sourceKey, e.targetKey)

namespace AdjacencyMatrix

variable {ids : List String} {edges edges' : List Edge}

theorem bump_comm (rows : List (List Nat)) (i j k l : Nat) :
    bump (bump rows i j) k l = bump (bump rows k l) i j := by
  let next (j : Nat) (row : List Nat) : List Nat := row.modify j (· + 1)
  have hcells : next l ∘ next j = next j ∘ next l := by
    funext row
    by_cases h : j = l
    · rw [h]
    · exact List.modify_modify_ne _ _ row h
  change (rows.modify i (next j)).modify k (next l) = (rows.modify k (next l)).modify i (next j)
  by_cases h : i = k
  · rw [h, List.modify_modify_eq, List.modify_modify_eq, hcells]
  · exact List.modify_modify_ne _ _ rows h

/-- Adds one to each of several cells. -/
def bumpAll (rows : List (List Nat)) (cells : List (Nat × Nat)) : List (List Nat) :=
  cells.foldl (fun rows cell => bump rows cell.1 cell.2) rows

theorem bumpAll_perm (rows : List (List Nat)) {cells cells' : List (Nat × Nat)}
    (h : cells.Perm cells') : bumpAll rows cells = bumpAll rows cells' :=
  h.foldl_eq' (fun _ _ _ _ rows => bump_comm rows _ _ _ _) rows

/-- The cells in which an edge between two ids counts. -/
def cellsOf (ids : List String) (source target : String) : List (Nat × Nat) :=
  match ids.idxOf? source, ids.idxOf? target with
  | some i, some j => if i = j then [(i, j)] else [(i, j), (j, i)]
  | _, _ => []

theorem cellsOf_swap (ids : List String) (source target : String) :
    (cellsOf ids source target).Perm (cellsOf ids target source) := by
  unfold cellsOf
  cases ids.idxOf? source with
  | none =>
      cases ids.idxOf? target with
      | none => exact List.Perm.nil
      | some j => exact List.Perm.nil
  | some i =>
      cases ids.idxOf? target with
      | none => exact List.Perm.nil
      | some j =>
          by_cases h : i = j
          · simp [h]
          · simp [h, Ne.symm h, List.Perm.swap]

theorem count_eq_bumpAll (ids : List String) (rows : List (List Nat)) (e : Edge) :
    count ids rows e = bumpAll rows (cellsOf ids e.sourceKey.id e.targetKey.id) := by
  unfold count cellsOf
  cases ids.idxOf? e.sourceKey.id with
  | none => rfl
  | some i =>
      cases ids.idxOf? e.targetKey.id with
      | none => rfl
      | some j =>
          by_cases h : i = j
          · simp [h, bumpAll]
          · simp [h, bumpAll]

/-- Counts a pair of ends, whichever comes first. -/
def tally (ids : List String) (rows : List (List Nat)) (ends : Sym2 Key) : List (List Nat) :=
  Sym2.lift ⟨fun source target => bumpAll rows (cellsOf ids source.id target.id),
    fun source target => bumpAll_perm rows (cellsOf_swap ids source.id target.id)⟩ ends

theorem tally_comm (ids : List String) (rows : List (List Nat)) (ends ends' : Sym2 Key) :
    tally ids (tally ids rows ends) ends' = tally ids (tally ids rows ends') ends := by
  induction ends with
  | _ source target =>
    induction ends' with
    | _ source' target' =>
      have happend : ∀ cells cells' : List (Nat × Nat),
          bumpAll (bumpAll rows cells) cells' = bumpAll rows (cells ++ cells') :=
        fun cells cells' => (List.foldl_append ..).symm
      change bumpAll (bumpAll rows _) _ = bumpAll (bumpAll rows _) _
      rw [happend, happend]
      exact bumpAll_perm rows List.perm_append_comm

/-- Edges that have the same ends, each pair as often, have the same adjacency
matrix. -/
theorem make_perm (h : (edges.map Edge.ends).Perm (edges'.map Edge.ends)) :
    make ids edges = make ids edges' := by
  have htally : ∀ (rows : List (List Nat)) (es : List Edge),
      es.foldl (count (sortIds ids)) rows =
        (es.map Edge.ends).foldl (tally (sortIds ids)) rows := by
    intro rows es
    rw [List.foldl_map]
    apply List.foldl_ext
    intro rows e _
    exact count_eq_bumpAll _ rows e
  have hrows := h.foldl_eq' (fun _ _ _ _ rows => tally_comm (sortIds ids) rows _ _)
    (List.replicate (sortIds ids).length (List.replicate (sortIds ids).length 0))
  simp only [make]
  rw [htally, htally, hrows]

end AdjacencyMatrix

end NetworkTopology
