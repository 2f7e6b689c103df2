import NetworkTopology.Number.IntegerLiteral

/-!
# Reading back what was written

The numeral of an integer within the digit limit is read as that integer.  It
follows that two integers never have the same numeral.
-/

namespace NetworkTopology

open Text (digitValue? trim trimBy isBlank whiteSpace)

/-! ## Trimming -/

namespace Text

/-- What holds no character of a class keeps its ends when that class is
trimmed. -/
theorem trimBy_of_forall {p : Char → Bool} {cs : List Char}
    (h : ∀ c ∈ cs, p c = false) : trimBy p cs = cs := by
  have front : ∀ ds : List Char, (∀ c ∈ ds, p c = false) → ds.dropWhile p = ds := by
    intro ds hds
    cases ds with
    | nil => rfl
    | cons d ds =>
        have hd : p d = false := hds d List.mem_cons_self
        rw [List.dropWhile_cons, hd]
        rfl
  have back : ∀ c ∈ cs.reverse, p c = false := by
    intro c hc
    exact h c (List.mem_reverse.mp hc)
  rw [trimBy, front cs h, front cs.reverse back, List.reverse_reverse]

end Text

namespace Decimal

/-- A digit below ten is written by a character from `0` to `9`. -/
theorem digitChar_cases {d : Nat} (h : d < 10) :
    digitChar d ∈ ['0', '1', '2', '3', '4', '5', '6', '7', '8', '9'] := by
  have all : ∀ d < 10,
      digitChar d ∈ ['0', '1', '2', '3', '4', '5', '6', '7', '8', '9'] := by decide
  exact all d h

theorem digitValue?_digitChar {d : Nat} (h : d < 10) :
    digitValue? (digitChar d) = some d := by
  have all : ∀ d < 10, digitValue? (digitChar d) = some d := by decide
  exact all d h

theorem ten_le_pow {k : Nat} (hk : 0 < k) : 10 ≤ Nat.pow 10 k :=
  Nat.pow_le_pow_right (Nat.succ_pos 9) hk

/-- What digits below ten are read as, behind what was read before them. -/
theorem foldl_digits_lt {ds : List Nat} (h : ∀ d ∈ ds, d < 10) (value : Nat) :
    ds.foldl (fun value d => 10 * value + d) value < (value + 1) * Nat.pow 10 ds.length := by
  induction ds generalizing value with
  | nil => exact Nat.lt_of_lt_of_eq (Nat.lt_succ_self value) (Nat.mul_one (value + 1)).symm
  | cons d ds ih =>
      rw [List.forall_mem_cons] at h
      have hvalue : 10 * value + d + 1 ≤ (value + 1) * 10 := by omega
      have hpow : Nat.pow 10 (d :: ds).length = 10 * Nat.pow 10 ds.length := Nat.pow_succ'
      calc (d :: ds).foldl (fun value d => 10 * value + d) value
          < (10 * value + d + 1) * Nat.pow 10 ds.length := ih h.2 (10 * value + d)
        _ ≤ (value + 1) * 10 * Nat.pow 10 ds.length := Nat.mul_le_mul_right _ hvalue
        _ = (value + 1) * Nat.pow 10 (d :: ds).length := by rw [hpow, Nat.mul_assoc]

theorem ofDigits_lt_pow {ds : List Nat} (h : ∀ d ∈ ds, d < 10) {k : Nat} (hk : ds.length ≤ k) :
    ofDigits ds < Nat.pow 10 k := by
  have hfold := foldl_digits_lt h 0
  rw [Nat.zero_add, Nat.one_mul] at hfold
  exact Nat.lt_of_lt_of_le hfold (Nat.pow_le_pow_right (Nat.succ_pos 9) hk)

theorem two_pow_le_pow {j k : Nat} (h : j ≤ k) : Nat.pow 2 j ≤ Nat.pow 10 k :=
  Nat.le_trans (Nat.pow_le_pow_left (by decide) j) (Nat.pow_le_pow_right (Nat.succ_pos 9) h)

/-- A numeral has at most `k` digits exactly when its number is below the power of
ten with exponent `k`. -/
theorem length_digits_le_iff {n k : Nat} (hk : 0 < k) :
    (digits n).length ≤ k ↔ n < Nat.pow 10 k := by
  induction n using digits.induct generalizing k with
  | case1 n h =>
      rw [digits_of_lt h]
      have hten := ten_le_pow hk
      constructor
      · intro _
        omega
      · intro _
        exact hk
  | case2 n h ih =>
      rw [digits_of_le (by omega), List.length_append, List.length_singleton]
      obtain ⟨j, rfl⟩ : ∃ j, k = j + 1 := ⟨k - 1, by omega⟩
      rcases Nat.eq_zero_or_pos j with rfl | hj
      · have hne : 0 < (digits (n / 10)).length :=
          List.length_pos_iff.mpr (digits_ne_nil _)
        have hpow : Nat.pow 10 (0 + 1) = 10 := rfl
        constructor
        · intro hle
          omega
        · intro hlt
          omega
      · have hdigits := ih hj
        have hpow : Nat.pow 10 (j + 1) = Nat.pow 10 j * 10 := rfl
        constructor
        · intro hle
          have hlt := hdigits.mp (by omega)
          omega
        · intro hlt
          have hle := hdigits.mpr (by omega)
          omega

/-- The numeral of an integer consists of digits behind an optional sign. -/
theorem mem_integer_cases {n : Int} {c : Char} (h : c ∈ integer n) :
    c ∈ ['-', '0', '1', '2', '3', '4', '5', '6', '7', '8', '9'] := by
  have digit : ∀ m, c ∈ natural m →
      c ∈ ['-', '0', '1', '2', '3', '4', '5', '6', '7', '8', '9'] := by
    intro m hm
    obtain ⟨d, hd, rfl⟩ := List.mem_map.mp hm
    exact List.mem_cons_of_mem _ (digitChar_cases (lt_of_mem_digits hd))
  unfold integer at h
  split at h
  · rcases List.mem_cons.mp h with rfl | h
    · exact List.mem_cons_self
    · exact digit _ h
  · exact digit _ h

theorem isBlank_of_mem_integer {n : Int} {c : Char} (h : c ∈ integer n) :
    isBlank c = false := by
  have all : ['-', '0', '1', '2', '3', '4', '5', '6', '7', '8', '9'].all
      (isBlank · == false) = true := by decide
  exact beq_iff_eq.mp (List.all_eq_true.mp all c (mem_integer_cases h))

theorem whiteSpace_of_mem_integer {n : Int} {c : Char} (h : c ∈ integer n) :
    whiteSpace.holds c = false := by
  have all : ['-', '0', '1', '2', '3', '4', '5', '6', '7', '8', '9'].all
      (whiteSpace.holds · == false) = true := by decide
  exact beq_iff_eq.mp (List.all_eq_true.mp all c (mem_integer_cases h))

theorem minus_not_mem_natural (n : Nat) : '-' ∉ natural n := by
  intro h
  obtain ⟨d, hd, hminus⟩ := List.mem_map.mp h
  have all : ['0', '1', '2', '3', '4', '5', '6', '7', '8', '9'].all (· != '-') = true := by decide
  exact bne_iff_ne.mp (List.all_eq_true.mp all _ (digitChar_cases (lt_of_mem_digits hd))) hminus

theorem natural_injective {m n : Nat} (h : natural m = natural n) : m = n := by
  rw [← ofNatural_natural m, h, ofNatural_natural]

theorem integer_natCast (n : Nat) : integer n = natural n := by
  rw [integer, if_neg (by omega), Int.natAbs_natCast]

theorem integer_injective {m n : Int} (h : integer m = integer n) : m = n := by
  unfold integer at h
  split at h <;> split at h
  · have habs := natural_injective (List.cons.inj h).2
    omega
  · have hminus : '-' ∈ natural n.natAbs := by
      rw [← h]
      exact List.mem_cons_self
    exact absurd hminus (minus_not_mem_natural _)
  · have hminus : '-' ∈ natural m.natAbs := by
      rw [h]
      exact List.mem_cons_self
    exact absurd hminus (minus_not_mem_natural _)
  · have habs := natural_injective h
    omega

theorem toList_append_text (stem : String) (n : Int) :
    (stem ++ text n).toList = stem.toList ++ integer n := by
  rw [text, String.toList_append, String.toList_ofList]

/-- Behind one stem, different integers make different ids. -/
theorem append_text_inj {stem : String} {m n : Int} :
    stem ++ text m = stem ++ text n ↔ m = n := by
  constructor
  · intro h
    have hlist : (stem ++ text m).toList = (stem ++ text n).toList := by rw [h]
    rw [toList_append_text, toList_append_text] at hlist
    exact integer_injective (List.append_cancel_left hlist)
  · rintro rfl
    rfl

end Decimal

namespace IntegerLiteral

open Decimal (digits digitChar natural integer)

/-- The digits of a numeral are read one by one. -/
theorem digits?_map_digitChar {ds : List Nat} (hne : ds ≠ [])
    (hds : ∀ d ∈ ds, d < 10) : digits? (ds.map digitChar) = some ds := by
  induction ds with
  | nil => exact absurd rfl hne
  | cons d ds ih =>
      have hd := Decimal.digitValue?_digitChar (hds d List.mem_cons_self)
      cases ds with
      | nil => simp [digits?, hd]
      | cons e es =>
          have hrest := ih (by simp) fun x hx => hds x (List.mem_cons_of_mem _ hx)
          have he : digitChar e ≠ '_' := by
            have all : ['0', '1', '2', '3', '4', '5', '6', '7', '8', '9'].all
                (· != '_') = true := by decide
            have hdigit := Decimal.digitChar_cases (hds e (by simp))
            exact bne_iff_ne.mp (List.all_eq_true.mp all _ hdigit)
          simp only [List.map_cons] at hrest ⊢
          rw [digits?]
          · simp [hd, hrest]
          · simp
          · intro rest hc
            exact absurd (List.cons.inj hc).1 he

theorem digitLimit_pos : 0 < digitLimit := by
  decide

theorem ten_le_bound : 10 ≤ bound := by
  -- The limit stays unevaluated: its power of ten is a large number.
  unfold bound
  exact Decimal.ten_le_pow digitLimit_pos

theorem writable_of_lt_ten {n : Int} (h : n.natAbs < 10) : Writable n :=
  Nat.lt_of_lt_of_le h ten_le_bound

theorem writable_ofDigits {ds : List Nat} (h : ∀ d ∈ ds, d < 10) (hlimit : ds.length ≤ digitLimit) :
    Writable (Decimal.ofDigits ds) := by
  rw [Writable, Int.natAbs_natCast]
  unfold bound
  exact Decimal.ofDigits_lt_pow h hlimit

theorem writable_neg_iff {n : Int} : Writable (-n) ↔ Writable n := by
  rw [Writable, Writable, Int.natAbs_neg]

theorem two_pow_le_bound {k : Nat} (h : k ≤ digitLimit) : Nat.pow 2 k ≤ bound := by
  unfold bound
  exact Decimal.two_pow_le_pow h

theorem not_writable_bound : ¬ Writable bound := by
  rw [Writable, Int.natAbs_natCast]
  exact Nat.lt_irrefl bound

theorem natural?_natural {n : Nat} (h : n < bound) : natural? (natural n) = some n := by
  have hdigits : digits? (natural n) = some (digits n) :=
    digits?_map_digitChar (Decimal.digits_ne_nil n) fun d hd => Decimal.lt_of_mem_digits hd
  have hlength : (digits n).length ≤ digitLimit := by
    unfold bound at h
    exact (Decimal.length_digits_le_iff digitLimit_pos).mpr h
  simp [natural?, hdigits, hlength, Decimal.ofDigits_digits]

/-- A text without a sign in front is read as a natural number. -/
theorem signed?_of_ne {c : Char} {cs : List Char} (hplus : c ≠ '+') (hminus : c ≠ '-') :
    signed? (c :: cs) = (natural? (c :: cs)).map Int.ofNat := by
  unfold signed?
  split
  · rename_i h
    exact absurd (List.cons.inj h).1 hplus
  · rename_i h
    exact absurd (List.cons.inj h).1 hminus
  · rfl

theorem signed?_integer {n : Int} (h : Writable n) : signed? (integer n) = some n := by
  have hread := natural?_natural h
  unfold integer
  split
  · rename_i hneg
    have habs : -(n.natAbs : Int) = n := by omega
    rw [signed?, hread]
    exact congrArg some habs
  · rename_i hpos
    obtain ⟨d, ds, hcons⟩ := List.exists_cons_of_ne_nil (Decimal.digits_ne_nil n.natAbs)
    have hd : d < 10 := Decimal.lt_of_mem_digits (by rw [hcons]; exact List.mem_cons_self)
    have hnat : natural n.natAbs = digitChar d :: ds.map digitChar := by
      rw [natural, hcons, List.map_cons]
    have all : ['0', '1', '2', '3', '4', '5', '6', '7', '8', '9'].all
        (fun c => c != '+' && c != '-') = true := by decide
    have hsign := List.all_eq_true.mp all _ (Decimal.digitChar_cases hd)
    rw [Bool.and_eq_true, bne_iff_ne, bne_iff_ne] at hsign
    rw [hnat] at hread ⊢
    rw [signed?_of_ne hsign.1 hsign.2, hread]
    simp only [Option.map_some, Option.some.injEq, Int.ofNat_eq_natCast]
    omega

/-- A numeral within the limit is read as the integer it was written for. -/
theorem read?_integer {n : Int} (h : Writable n) : read? (integer n) = some n := by
  rw [read?, Text.trimBy_of_forall fun c hc => Decimal.whiteSpace_of_mem_integer hc]
  exact signed?_integer h

end IntegerLiteral

end NetworkTopology
