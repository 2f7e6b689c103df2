import Mathlib.Algebra.Order.Field.Power
import Mathlib.Data.Rat.Cast.Order
import Mathlib.Tactic.NormNum
import Mathlib.Tactic.Positivity
import Mathlib.Tactic.Ring
import NetworkTopology.Number.Binary64

/-!
# The doubles of the format

A decimal notation is rounded to a double of the format: its odd mantissa has at most
53 binary digits, and its exponent is in range.
-/

namespace NetworkTopology.Binary64

/-- An odd mantissa and an exponent of a double that is not zero. -/
structure InFormat (m : Nat) (e : Int) : Prop where
  odd : m % 2 = 1
  short : m < 2 ^ 53
  least : leastExponent ≤ e
  bounded : Nat.log2 m + e < overflowExponent

/-- A double of the format. -/
def Canonical : Binary64 → Prop
  | nan | infinite _ => True
  | finite _ m e => (m = 0 ∧ e = 0) ∨ InFormat m e

/-! ## Scaling -/

section Scaling

variable {a b : Nat} {e : Int}

/-- A power with any exponent, where only the natural part of exponents is at hand. -/
theorem zpow_mul_pow_toNat {x : ℚ} (hx : x ≠ 0) (e : Int) :
    x ^ e * x ^ (-e).toNat = x ^ e.toNat := by
  rw [← zpow_natCast, ← zpow_natCast, ← zpow_add₀ hx]
  congr 1
  omega

theorem cast_scaleUp (n : Nat) (e : Int) : (scaleUp n e : ℚ) = n * 2 ^ e.toNat := by
  rw [scaleUp, Nat.cast_mul]
  congr 1
  exact Nat.cast_pow 2 e.toNat

/-- Where one number is scaled up and another one down, they compare as when the second
alone is scaled. -/
theorem scaleUp_lt_scaleUp_iff : scaleUp a (-e) < scaleUp b e ↔ (a : ℚ) < b * 2 ^ e := by
  have hpos : (0 : ℚ) < 2 ^ (-e).toNat := by positivity
  rw [← Nat.cast_lt (α := ℚ), cast_scaleUp, cast_scaleUp,
    ← zpow_mul_pow_toNat two_ne_zero e, ← mul_assoc]
  exact mul_lt_mul_iff_left₀ hpos

end Scaling

/-! ## Rounding a quotient -/

/-- A rounded quotient does not pass an integer that the quotient does not pass. -/
theorem roundQuotient_le {a b n : Nat} (hb : 0 < b) (h : a ≤ n * b) :
    roundQuotient a b ≤ n := by
  have hquotient : a / b ≤ n := Nat.div_le_of_le_mul (h.trans_eq (Nat.mul_comm n b))
  rcases Nat.lt_or_ge (a / b) n with hlt | hge
  · unfold roundQuotient
    dsimp only
    split
    · exact hquotient
    · split
      · exact hlt
      · split
        · exact hquotient
        · exact hlt
  · have hexact : a / b = n := Nat.le_antisymm hquotient hge
    have hremainder : a % b = 0 := by
      have hdivision := Nat.div_add_mod a b
      rw [hexact, Nat.mul_comm b n] at hdivision
      omega
    have hhalf : 2 * (a % b) < b := by
      rw [hremainder]
      exact hb
    rw [roundQuotient, if_pos hhalf]
    exact hquotient

theorem lt_two_pow_log2_succ (n : Nat) : (n : ℚ) < 2 ^ ((Nat.log2 n : Int) + 1) := by
  have h : n < 2 ^ (Nat.log2 n + 1) := Nat.lt_log2_self
  exact_mod_cast h

theorem two_pow_log2_le {n : Nat} (hn : n ≠ 0) : (2 : ℚ) ^ (Nat.log2 n : Int) ≤ n := by
  have h : 2 ^ Nat.log2 n ≤ n := Nat.log2_self_le hn
  exact_mod_cast h

/-- A quotient is below the power of two next to its order. -/
theorem lt_two_pow_binaryOrder {num den : Nat} (hden : den ≠ 0) :
    (num : ℚ) < den * 2 ^ (binaryOrder num den + 1) := by
  unfold binaryOrder
  dsimp only
  split
  · have hnum := lt_two_pow_log2_succ num
    have hpow := two_pow_log2_le hden
    have hsplit : (2 : ℚ) ^ ((Nat.log2 num : Int) + 1) =
        2 ^ (Nat.log2 den : Int) * 2 ^ ((Nat.log2 num : Int) - Nat.log2 den + 1) := by
      rw [← zpow_add₀ two_ne_zero]
      congr 1
      omega
    calc (num : ℚ) < 2 ^ ((Nat.log2 num : Int) + 1) := hnum
      _ = 2 ^ (Nat.log2 den : Int) * 2 ^ ((Nat.log2 num : Int) - Nat.log2 den + 1) := hsplit
      _ ≤ den * 2 ^ ((Nat.log2 num : Int) - Nat.log2 den + 1) :=
        mul_le_mul_of_nonneg_right hpow (by positivity)
  · rename_i hlarge
    rw [Int.sub_add_cancel]
    exact scaleUp_lt_scaleUp_iff.mp (Nat.lt_of_not_le hlarge)

/-! ## The results -/

theorem log2_half {n : Nat} (h : 2 ≤ n) : Nat.log2 (n / 2) + 1 = Nat.log2 n := by
  conv => rhs; rw [Nat.log2_def]
  rw [if_pos h]

/-- Factors of two move from the mantissa to the exponent. -/
theorem canonical_ofScaled (negative : Bool) {n : Nat} {e : Int} (hn : n ≠ 0)
    (hshort : n ≤ 2 ^ 53) (hleast : leastExponent ≤ e)
    (hbounded : Nat.log2 n + e < overflowExponent) : (ofScaled negative n e).Canonical := by
  induction n, e using ofScaled.induct with
  | case1 e => exact absurd rfl hn
  | case2 n e _ heven ih =>
      rw [ofScaled, dif_neg hn, if_pos heven]
      have hlog := log2_half (n := n) (by omega)
      exact ih (by omega) (by omega) (by omega) (by omega)
  | case3 n e _ hodd =>
      rw [ofScaled, dif_neg hn, if_neg hodd]
      refine .inr ⟨by omega, ?_, hleast, hbounded⟩
      omega

theorem canonical_ofQuotient (negative : Bool) {num den : Nat} (hden : den ≠ 0) :
    (ofQuotient negative num den).Canonical := by
  unfold ofQuotient
  dsimp only
  let unit := max (binaryOrder num den - 52) leastExponent
  let m := roundQuotient (scaleUp num (-unit)) (scaleUp den unit)
  have hshort : m ≤ 2 ^ 53 := by
    have hpos : 0 < scaleUp den unit :=
      Nat.mul_pos (Nat.pos_of_ne_zero hden) (Nat.pow_pos (by decide))
    refine roundQuotient_le hpos (Nat.le_of_lt ?_)
    have hscale : 2 ^ 53 * scaleUp den unit = scaleUp (2 ^ 53 * den) unit :=
      (Nat.mul_assoc _ _ _).symm
    rw [hscale, scaleUp_lt_scaleUp_iff]
    refine (lt_two_pow_binaryOrder hden).trans_le ?_
    have horder : binaryOrder num den + 1 ≤ 53 + unit := by omega
    have hpow : (2 : ℚ) ^ (binaryOrder num den + 1) ≤ 2 ^ (53 + unit) :=
      zpow_le_zpow_right₀ one_le_two horder
    calc (den : ℚ) * 2 ^ (binaryOrder num den + 1) ≤ den * 2 ^ (53 + unit) :=
          mul_le_mul_of_nonneg_left hpow (Nat.cast_nonneg den)
      _ = ((2 ^ 53 * den : Nat) : ℚ) * 2 ^ unit := by
          rw [zpow_add₀ two_ne_zero]
          push_cast
          ring
  split
  · trivial
  · rename_i hfinite
    by_cases hzero : m = 0
    · change (ofScaled negative m unit).Canonical
      rw [hzero, ofScaled, dif_pos rfl]
      exact .inl ⟨rfl, rfl⟩
    · refine canonical_ofScaled negative hzero hshort (le_max_right _ _) ?_
      have hlog : ¬ overflowExponent ≤ unit + Nat.log2 m := fun h => hfinite ⟨hzero, h⟩
      change (Nat.log2 m : Int) + unit < overflowExponent
      omega

/-- A decimal number is rounded to a double of the format. -/
theorem canonical_ofDecimal (negative : Bool) (n : Nat) (e : Int) :
    (ofDecimal negative n e).Canonical := by
  unfold ofDecimal
  dsimp only
  split
  · exact .inl ⟨rfl, rfl⟩
  · split
    · trivial
    · split
      · exact .inl ⟨rfl, rfl⟩
      · have hpow : Nat.pow 10 (-e).toNat ≠ 0 := Nat.pos_iff_ne_zero.mp (Nat.pow_pos (by decide))
        exact canonical_ofQuotient negative hpow

/-! ## Integer parts -/

theorem scaleUp_lt {m : Nat} {e : Int} (h : InFormat m e) :
    scaleUp m e < 2 ^ overflowExponent.toNat := by
  have hbounded := h.bounded
  have hshort := h.short
  rcases Int.le_total 0 e with hscaled | hfraction
  · have hlog : m < 2 ^ (Nat.log2 m + 1) := Nat.lt_log2_self
    calc scaleUp m e < 2 ^ (Nat.log2 m + 1) * 2 ^ e.toNat :=
          Nat.mul_lt_mul_of_pos_right hlog (Nat.pow_pos (by decide))
      _ = 2 ^ (Nat.log2 m + 1 + e.toNat) := (Nat.pow_add 2 _ _).symm
      _ ≤ 2 ^ overflowExponent.toNat := Nat.pow_le_pow_right (by decide) (by omega)
  · have hpow : Nat.pow 2 e.toNat = 1 := by
      rw [Int.toNat_of_nonpos hfraction]
    rw [scaleUp, hpow, Nat.mul_one]
    exact hshort.trans_le (Nat.pow_le_pow_right (by decide) (by decide))

/-- The integer part of a double of the format is within its range. -/
theorem natAbs_truncate?_lt {value : Binary64} (h : value.Canonical) {n : Int}
    (hn : value.truncate? = some n) : n.natAbs < 2 ^ overflowExponent.toNat := by
  cases value with
  | nan => cases hn
  | infinite negative => cases hn
  | finite negative m e =>
      have hscale : scaleUp m e < 2 ^ overflowExponent.toNat := by
        rcases h with ⟨rfl, -⟩ | hformat
        · rw [scaleUp, Nat.zero_mul]
          exact Nat.pow_pos (by decide)
        · exact scaleUp_lt hformat
      have hpart := (Nat.div_le_self (scaleUp m e) (Nat.pow 2 (-e).toNat)).trans_lt hscale
      cases hn
      cases negative with
      | false => rwa [if_neg Bool.noConfusion, Int.natAbs_natCast]
      | true => rwa [if_pos rfl, Int.natAbs_neg, Int.natAbs_natCast]

end NetworkTopology.Binary64
