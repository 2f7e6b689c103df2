import Mathlib.Tactic.Linarith
import NetworkTopology.Number.Shortest
import NetworkTopology.Proofs.Number.Canonical

/-!
# Numbers that round to a double

The rounding intervals of different doubles do not meet.  Where two of them touch, one
significand is odd, and the common end belongs to the other one.
-/

namespace NetworkTopology.Binary64

/-- Does a number lie in the interval? -/
def RoundingInterval.Contains (i : RoundingInterval) (x : ℚ) : Prop :=
  if i.closed then i.low * 2 ^ i.unit ≤ x ∧ x ≤ i.high * 2 ^ i.unit
  else i.low * 2 ^ i.unit < x ∧ x < i.high * 2 ^ i.unit

namespace RoundingInterval

variable {i : RoundingInterval} {x : ℚ}

theorem Contains.bounds (h : i.Contains x) :
    i.low * 2 ^ i.unit ≤ x ∧ x ≤ i.high * 2 ^ i.unit := by
  unfold Contains at h
  split at h
  · exact h
  · exact ⟨h.1.le, h.2.le⟩

theorem Contains.strict (h : i.Contains x) (hopen : i.closed = false) :
    i.low * 2 ^ i.unit < x ∧ x < i.high * 2 ^ i.unit := by
  rw [Contains, hopen] at h
  exact h

theorem contains_of_lt (hlow : i.low * 2 ^ i.unit < x) (hhigh : x < i.high * 2 ^ i.unit) :
    i.Contains x := by
  unfold Contains
  split
  · exact ⟨hlow.le, hhigh.le⟩
  · exact ⟨hlow, hhigh⟩

end RoundingInterval

/-- A double by its significand, which has 53 digits unless the unit is the least one. -/
structure Aligned (significand : Nat) (unit : Int) : Prop where
  short : significand < 2 ^ 53
  least : leastExponent ≤ unit
  full : leastExponent < unit → 2 ^ 52 ≤ significand

/-- The numbers that round to a double given by its significand. -/
def alignedInterval (significand : Nat) (unit : Int) : RoundingInterval :=
  { low := if significand = Nat.pow 2 52 ∧ leastExponent < unit
      then 4 * significand - 1 else 4 * significand - 2
    centre := 4 * significand, high := 4 * significand + 2, unit := unit - 2
    closed := significand % 2 = 0 }

/-- The rounding interval is that of the significand. -/
theorem exists_aligned {m : Nat} {e : Int} (h : InFormat m e) :
    ∃ significand unit, roundingInterval m e = alignedInterval significand unit ∧
      Aligned significand unit ∧ significand ≠ 0 ∧
      (significand : ℚ) * 2 ^ unit = m * 2 ^ e ∧ (Nat.log2 m : Int) + e ≤ unit + 52 := by
  let unit := max (e - (52 - (Nat.log2 m : Int))) leastExponent
  have hm : m ≠ 0 := by
    intro hzero
    have hodd := h.odd
    omega
  have hlog : Nat.log2 m < 53 := (Nat.log2_lt hm).mpr h.short
  have hunit : unit ≤ e := by
    have hleast := h.least
    omega
  have hvalue : (scaleUp m (e - unit) : ℚ) * 2 ^ unit = m * 2 ^ e := by
    rw [cast_scaleUp, ← zpow_natCast, Int.toNat_of_nonneg (by omega), mul_assoc,
      ← zpow_add₀ two_ne_zero, Int.sub_add_cancel]
  refine ⟨scaleUp m (e - unit), unit, rfl, ⟨?_, le_max_right _ _, ?_⟩, ?_, hvalue, by omega⟩
  · have hlt : m < 2 ^ (Nat.log2 m + 1) := Nat.lt_log2_self
    calc m * Nat.pow 2 (e - unit).toNat
        < 2 ^ (Nat.log2 m + 1) * 2 ^ (e - unit).toNat :=
          Nat.mul_lt_mul_of_pos_right hlt (Nat.pow_pos (by decide))
      _ = 2 ^ (Nat.log2 m + 1 + (e - unit).toNat) := (pow_add _ _ _).symm
      _ ≤ 2 ^ 53 := Nat.pow_le_pow_right (by decide) (by omega)
  · intro hfull
    have hle : 2 ^ Nat.log2 m ≤ m := Nat.log2_self_le hm
    calc 2 ^ 52 ≤ 2 ^ (Nat.log2 m + (e - unit).toNat) :=
          Nat.pow_le_pow_right (by decide) (by omega)
      _ = 2 ^ Nat.log2 m * 2 ^ (e - unit).toNat := pow_add _ _ _
      _ ≤ m * Nat.pow 2 (e - unit).toNat := Nat.mul_le_mul_right _ hle
  · exact Nat.mul_ne_zero hm (Nat.pos_iff_ne_zero.mp (Nat.pow_pos (by decide)))

section Apart

variable {m n : Nat} {u v : Int}

theorem le_low_alignedInterval (n : Nat) (v : Int) : 4 * n - 2 ≤ (alignedInterval n v).low := by
  unfold alignedInterval
  dsimp only
  split <;> omega

/-- The lower end of a full significand; a power of two is closer to its predecessor. -/
theorem le_low_of_full (hn : 2 ^ 52 ≤ n) (hv : leastExponent < v) :
    2 ^ 54 - 1 ≤ (alignedInterval n v).low := by
  unfold alignedInterval
  dsimp only
  split
  · rename_i hpower
    have hvalue : n = 2 ^ 52 := hpower.1
    omega
  · rename_i hother
    have hne : n ≠ 2 ^ 52 := fun heq => hother ⟨heq, hv⟩
    omega

/-- The smaller of two doubles does not have the larger unit. -/
theorem unit_le_of_lt (hm : Aligned m u) (hn : Aligned n v)
    (h : (m : ℚ) * 2 ^ u < n * 2 ^ v) : u ≤ v := by
  by_contra hlt
  have hv := hn.least
  have hfull : ((2 ^ 52 : Nat) : ℚ) ≤ m := Nat.cast_le.mpr (hm.full (by omega))
  have hshort : (n : ℚ) < ((2 ^ 53 : Nat) : ℚ) := Nat.cast_lt.mpr hn.short
  have hpow : (2 : ℚ) ^ (1 + v) ≤ 2 ^ u := zpow_le_zpow_right₀ one_le_two (by omega)
  rw [zpow_add₀ two_ne_zero, zpow_one] at hpow
  have hpos : (0 : ℚ) < 2 ^ v := by positivity
  have hlarge : ((2 ^ 52 : Nat) : ℚ) * (2 * 2 ^ v) ≤ m * 2 ^ u :=
    mul_le_mul hfull hpow (by positivity) (Nat.cast_nonneg m)
  have hsmall : (n : ℚ) * 2 ^ v < ((2 ^ 53 : Nat) : ℚ) * 2 ^ v :=
    mul_lt_mul_of_pos_right hshort hpos
  push_cast at hlarge hsmall
  linarith

/-- The interval of the smaller double ends where that of the larger one starts, at the
latest, and before it if both significands are even. -/
theorem high_le_low (hm : Aligned m u) (hn : Aligned n v) (h : (m : ℚ) * 2 ^ u < n * 2 ^ v) :
    ((alignedInterval m u).high : ℚ) * 2 ^ (u - 2) ≤ (alignedInterval n v).low * 2 ^ (v - 2) ∧
      (m % 2 = 0 → n % 2 = 0 →
        ((alignedInterval m u).high : ℚ) * 2 ^ (u - 2) <
          (alignedInterval n v).low * 2 ^ (v - 2)) := by
  have hunit := unit_le_of_lt hm hn h
  have hpos : (0 : ℚ) < 2 ^ (u - 2) := by positivity
  have hhigh : (alignedInterval m u).high = 4 * m + 2 := rfl
  rcases hunit.eq_or_lt with rfl | hlt
  · have hless : m < n := Nat.cast_lt.mp (lt_of_mul_lt_mul_right h (by positivity))
    have hlow := le_low_alignedInterval n u
    refine ⟨mul_le_mul_of_nonneg_right (Nat.cast_le.mpr (by omega)) hpos.le, ?_⟩
    intro heven heven'
    exact mul_lt_mul_of_pos_right (Nat.cast_lt.mpr (by omega)) hpos
  · have hleast := hm.least
    have hlow := le_low_of_full (hn.full (by omega)) (v := v) (by omega)
    have hshort := hm.short
    have hpow : (2 : ℚ) * 2 ^ (u - 2) ≤ 2 ^ (v - 2) := by
      rw [← zpow_one_add₀ two_ne_zero]
      exact zpow_le_zpow_right₀ one_le_two (by omega)
    have hbelow : ((2 * (alignedInterval n v).low : Nat) : ℚ) * 2 ^ (u - 2) ≤
        (alignedInterval n v).low * 2 ^ (v - 2) := by
      rw [Nat.cast_mul, mul_comm ((2 : Nat) : ℚ), mul_assoc]
      exact mul_le_mul_of_nonneg_left hpow (Nat.cast_nonneg _)
    refine ⟨le_trans ?_ hbelow, ?_⟩
    · exact mul_le_mul_of_nonneg_right (Nat.cast_le.mpr (by omega)) hpos.le
    · intro heven _
      exact lt_of_lt_of_le (mul_lt_mul_of_pos_right (Nat.cast_lt.mpr (by omega)) hpos) hbelow

/-- No number rounds to two doubles. -/
theorem not_contains_of_lt (hm : Aligned m u) (hn : Aligned n v)
    (h : (m : ℚ) * 2 ^ u < n * 2 ^ v) {x : ℚ} (hx : (alignedInterval m u).Contains x) :
    ¬ (alignedInterval n v).Contains x := by
  intro hx'
  obtain ⟨hle, hlt⟩ := high_le_low hm hn h
  have hupper : x ≤ (alignedInterval m u).high * 2 ^ (u - 2) := hx.bounds.2
  have hlower : (alignedInterval n v).low * 2 ^ (v - 2) ≤ x := hx'.bounds.1
  by_cases heven : m % 2 = 0
  · by_cases heven' : n % 2 = 0
    · exact absurd (hlower.trans hupper) (not_le.mpr (hlt heven heven'))
    · have hstrict : (alignedInterval n v).low * 2 ^ (v - 2) < x :=
        (hx'.strict (decide_eq_false heven')).1
      exact absurd (hstrict.trans_le hupper) (not_lt.mpr hle)
  · have hstrict : x < (alignedInterval m u).high * 2 ^ (u - 2) :=
      (hx.strict (decide_eq_false heven)).2
    exact absurd (hlower.trans_lt hstrict) (not_lt.mpr hle)

end Apart

/-- Different odd mantissas or exponents make different numbers. -/
theorem eq_of_odd {m n : Nat} {e f : Int} (hm : m % 2 = 1) (hn : n % 2 = 1)
    (h : (m : ℚ) * 2 ^ e = n * 2 ^ f) : m = n ∧ e = f := by
  wlog hle : e ≤ f generalizing m n e f
  · obtain ⟨hmantissa, hexponent⟩ := this hn hm h.symm (by omega)
    exact ⟨hmantissa.symm, hexponent.symm⟩
  obtain ⟨k, rfl⟩ : ∃ k : Nat, f = k + e := ⟨(f - e).toNat, by omega⟩
  have hpos : (2 : ℚ) ^ e ≠ 0 := by positivity
  rw [zpow_add₀ two_ne_zero, zpow_natCast, ← mul_assoc] at h
  have hmantissa : m = n * 2 ^ k := by
    have hcast := mul_right_cancel₀ hpos h
    exact_mod_cast hcast
  cases k with
  | zero => exact ⟨by omega, by omega⟩
  | succ k =>
      rw [pow_succ, ← Nat.mul_assoc] at hmantissa
      omega

/-- A number rounds to one double at most. -/
theorem eq_of_contains {m n : Nat} {e f : Int} (hm : InFormat m e) (hn : InFormat n f) {x : ℚ}
    (hx : (roundingInterval m e).Contains x) (hx' : (roundingInterval n f).Contains x) :
    m = n ∧ e = f := by
  obtain ⟨M, u, hinterval, haligned, -, hvalue, -⟩ := exists_aligned hm
  obtain ⟨N, v, hinterval', haligned', -, hvalue', -⟩ := exists_aligned hn
  rw [hinterval] at hx
  rw [hinterval'] at hx'
  rcases lt_trichotomy ((m : ℚ) * 2 ^ e) (n * 2 ^ f) with hlt | heq | hgt
  · rw [← hvalue, ← hvalue'] at hlt
    exact absurd hx' (not_contains_of_lt haligned haligned' hlt hx)
  · exact eq_of_odd hm.odd hn.odd heq
  · rw [← hvalue, ← hvalue'] at hgt
    exact absurd hx (not_contains_of_lt haligned' haligned hgt hx')

end NetworkTopology.Binary64
