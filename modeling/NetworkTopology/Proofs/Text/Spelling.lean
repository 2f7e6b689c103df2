import Mathlib.Data.String.Basic
import NetworkTopology.Text.Spelling

/-!
# Reading spelled texts

A text can be read from its spelling, and every string is the spelling of what it is
read as.  The spellings of code points are in their order and none starts another one, so
the spelling of a text is less than that of another exactly if the text is, and starts it
exactly if the text does.
-/

namespace NetworkTopology.Text

theorem toNat_mark : mark.toNat = 0xD7FF := rfl

theorem toNat_ofNat {n : Nat} (h : n.isValidChar) : (Char.ofNat n).toNat = n := by
  rw [Char.ofNat, dif_pos h]
  rfl

/-- A code point is spelled behind a mark or as it is. -/
theorem spelling_cases {n : Nat} (h : n < beyond) :
    (∃ sign : Char, 0xD7FF ≤ n ∧ n ≤ 0xDFFF ∧ spelling n = [mark, sign] ∧
      sign.toNat = n + 0x801) ∨
    ∃ c : Char, (n < 0xD7FF ∨ 0xDFFF < n) ∧ spelling n = [c] ∧ c.toNat = n := by
  unfold spelling
  unfold beyond at h ⊢
  split
  · rename_i hmarked
    have hvalid : (n + 0x801).isValidChar := .inr (by omega)
    exact .inl ⟨_, hmarked.1, hmarked.2, rfl, toNat_ofNat hvalid⟩
  · rename_i hplain
    have hvalid : n.isValidChar := by
      unfold Nat.isValidChar
      omega
    rw [if_neg (by omega)]
    exact .inr ⟨_, by omega, rfl, toNat_ofNat hvalid⟩

/-! ## Reading -/

theorem points_cons_of_ne {c : Char} (h : c ≠ mark) (cs : List Char) :
    points (c :: cs) = c.toNat :: points cs := by
  cases cs with
  | nil => simp [points, point, h]
  | cons sign cs => simp [points, point, h]

/-- What is spelled is read first, whatever follows it. -/
theorem points_spelling_append {n : Nat} (h : n < beyond) (cs : List Char) :
    points (spelling n ++ cs) = n :: points cs := by
  rcases spelling_cases h with ⟨sign, hlow, hhigh, hspelling, hsign⟩ | ⟨c, hplain, hspelling, rfl⟩
  · have hsigned : isSign sign = true := by
      rw [isSign, hsign]
      simp
      omega
    have hpoint : sign.toNat - 0x801 = n := by omega
    rw [hspelling, List.cons_append, List.singleton_append, points, if_pos ⟨rfl, hsigned⟩, hpoint]
  · have hne : c ≠ mark := by
      rintro rfl
      rw [toNat_mark] at hplain
      omega
    rw [hspelling, List.singleton_append, points_cons_of_ne hne]

theorem points_spelled_append {ns : List Nat} (h : ∀ n ∈ ns, n < beyond) (cs : List Char) :
    points (spelled ns ++ cs) = ns ++ points cs := by
  induction ns with
  | nil => rfl
  | cons n ns ih =>
      rw [List.forall_mem_cons] at h
      rw [spelled, List.flatMap_cons, List.append_assoc, points_spelling_append h.1]
      exact congrArg (n :: ·) (ih h.2)

/-- A text is read from its spelling, so different texts are spelled differently. -/
theorem points_spelled {ns : List Nat} (h : ∀ n ∈ ns, n < beyond) :
    points (spelled ns) = ns := by
  have happend := points_spelled_append h []
  rwa [List.append_nil, points, List.append_nil] at happend

theorem spelling_point (c : Char) : spelling (point c) = [c] := by
  unfold point
  split
  · rename_i hmark
    exact hmark ▸ rfl
  · rename_i hne
    have hvalid : c.toNat < 0xD800 ∨ (0xDFFF < c.toNat ∧ c.toNat < 0x110000) := c.valid
    have hplain : c.toNat ≠ 0xD7FF := fun heq => hne (Char.toNat_inj.mp heq)
    have hbeyond : c.toNat ≠ beyond := by
      unfold beyond
      omega
    rw [spelling, if_neg (by omega), if_neg hbeyond, Char.ofNat_toNat]

/-- A string is the spelling of what it is read as. -/
theorem spelled_points (cs : List Char) : spelled (points cs) = cs := by
  induction cs using points.induct with
  | case1 => rfl
  | case2 c => rw [points, spelled, List.flatMap_singleton, spelling_point]
  | case3 c sign cs h ih =>
      have hsign := h.2
      simp only [isSign, Bool.and_eq_true, decide_eq_true_eq] at hsign
      have hspelling : spelling (sign.toNat - 0x801) = [c, sign] := by
        rw [spelling, if_pos (by omega), Nat.sub_add_cancel (by omega), Char.ofNat_toNat, h.1]
      rw [points, if_pos h, spelled, List.flatMap_cons, hspelling]
      exact congrArg (c :: sign :: ·) ih
  | case4 c sign cs h ih =>
      rw [points, if_neg h, spelled, List.flatMap_cons, spelling_point]
      exact congrArg (c :: ·) ih

theorem points_injective {cs ds : List Char} (h : points cs = points ds) : cs = ds := by
  rw [← spelled_points cs, h, spelled_points]

theorem toNat_le (c : Char) : c.toNat ≤ beyond := by
  have hvalid : c.toNat < 0xD800 ∨ (0xDFFF < c.toNat ∧ c.toNat < 0x110000) := c.valid
  unfold beyond
  omega

theorem character?_toNat (c : Char) : character? c.toNat = some c :=
  dif_pos c.valid

theorem toNat_of_character? {n : Nat} {c : Char} (h : character? n = some c) : c.toNat = n := by
  by_cases hvalid : n.isValidChar
  · rw [character?, dif_pos hvalid] at h
    rw [← Option.some.inj h]
    rfl
  · rw [character?, dif_neg hvalid] at h
    cases h

theorem point_le (c : Char) : point c ≤ beyond := by
  unfold point
  split
  · exact Nat.le_refl beyond
  · exact toNat_le c

theorem le_of_mem_points {cs : List Char} {n : Nat} (h : n ∈ points cs) : n ≤ beyond := by
  induction cs using points.induct with
  | case1 => cases h
  | case2 c =>
      rw [points, List.mem_singleton] at h
      exact h ▸ point_le c
  | case3 c sign cs hmarked ih =>
      rw [points, if_pos hmarked] at h
      rcases List.mem_cons.mp h with hpoint | h
      · have hsign := hmarked.2
        simp only [isSign, Bool.and_eq_true, decide_eq_true_eq] at hsign
        unfold beyond
        omega
      · exact ih h
  | case4 c sign cs hplain ih =>
      rw [points, if_neg hplain] at h
      rcases List.mem_cons.mp h with rfl | h
      · exact point_le c
      · exact ih h

/-! ## Order -/

section Order

variable {m n : Nat} {ms ns : List Nat}

/-- A lesser code point is spelled by less, whatever follows. -/
theorem spelling_append_lt (hm : m < beyond) (hn : n < beyond) (h : m < n) (cs ds : List Char) :
    spelling m ++ cs < spelling n ++ ds := by
  have hhead : ∀ {c d : Char} {cs ds : List Char}, c.toNat < d.toNat → c :: cs < d :: ds :=
    fun hlt => List.cons_lt_cons_iff.mpr (.inl hlt)
  rcases spelling_cases hm with
      ⟨sign, hlow, hhigh, hspelling, hsign⟩ | ⟨c, hplain, hspelling, hc⟩ <;>
    rcases spelling_cases hn with
      ⟨sign', hlow', hhigh', hspelling', hsign'⟩ | ⟨d, hplain', hspelling', hd⟩ <;>
    rw [hspelling, hspelling']
  · exact List.cons_lt_cons_iff.mpr (.inr ⟨rfl, hhead (by omega)⟩)
  · exact hhead (by rw [toNat_mark]; omega)
  · exact hhead (by rw [toNat_mark]; omega)
  · exact hhead (by omega)

theorem append_lt_append_iff (front cs ds : List Char) :
    front ++ cs < front ++ ds ↔ cs < ds := by
  induction front with
  | nil => exact Iff.rfl
  | cons c front ih =>
      have hirrefl : ¬ c < c := Nat.lt_irrefl c.toNat
      rw [List.cons_append, List.cons_append, List.cons_lt_cons_iff, ih, or_iff_right hirrefl,
        and_iff_right rfl]

/-- The spellings are in the order of the texts. -/
theorem spelled_lt_spelled_iff (hms : ∀ m ∈ ms, m < beyond) (hns : ∀ n ∈ ns, n < beyond) :
    spelled ms < spelled ns ↔ ms < ns := by
  induction ms generalizing ns with
  | nil =>
      cases ns with
      | nil => exact iff_of_false (List.lt_irrefl []) (List.lt_irrefl [])
      | cons n ns =>
          have hspelled : spelled (n :: ns) ≠ [] := by
            intro hnil
            have hread := points_spelled hns
            rw [hnil] at hread
            cases hread
          obtain ⟨c, cs, hcons⟩ := List.exists_cons_of_ne_nil hspelled
          rw [hcons]
          exact iff_of_true (List.nil_lt_cons c cs) (List.nil_lt_cons n ns)
  | cons m ms ih =>
      cases ns with
      | nil => exact iff_of_false (List.not_lt_nil _) (List.not_lt_nil _)
      | cons n ns =>
          rw [List.forall_mem_cons] at hms hns
          rw [spelled, spelled, List.flatMap_cons, List.flatMap_cons, List.cons_lt_cons_iff]
          rcases Nat.lt_trichotomy m n with hlt | rfl | hgt
          · exact iff_of_true (spelling_append_lt hms.1 hns.1 hlt _ _) (.inl hlt)
          · rw [append_lt_append_iff, or_iff_right (Nat.lt_irrefl m), and_iff_right rfl]
            exact ih hms.2 hns.2
          · refine iff_of_false (List.lt_asymm (spelling_append_lt hns.1 hms.1 hgt _ _)) ?_
            rintro (hlt | ⟨rfl, -⟩)
            · exact Nat.lt_asymm hgt hlt
            · exact Nat.lt_irrefl _ hgt

/-- The spelling of a text starts that of another exactly if the text starts the other. -/
theorem spelled_prefix_spelled_iff (hms : ∀ m ∈ ms, m < beyond) (hns : ∀ n ∈ ns, n < beyond) :
    spelled ms <+: spelled ns ↔ ms <+: ns := by
  constructor
  · rintro ⟨cs, hcs⟩
    have hread := congrArg points hcs
    rw [points_spelled_append hms, points_spelled hns] at hread
    exact ⟨_, hread⟩
  · rintro ⟨rest, rfl⟩
    exact ⟨spelled rest, List.flatMap_append.symm⟩

end Order

end NetworkTopology.Text
