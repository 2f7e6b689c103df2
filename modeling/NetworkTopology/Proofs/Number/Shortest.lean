import NetworkTopology.Proofs.Number.Rounding

/-!
# The search for the shortest decimal form

The search finds a point of a decimal grid in the rounding interval before its fuel is
used up: there is one as soon as the grid is finer than half of the interval.  So the
shortest form of a double rounds to that double, and no two doubles have the same one.
-/

namespace NetworkTopology.Binary64

/-- The number that a decimal form stands for. -/
def DecimalForm.value (d : DecimalForm) : ℚ :=
  d.digits * 10 ^ d.exponent

namespace RoundingInterval

variable {i : RoundingInterval} {p : Int}

/-- The step of a grid, scaled to an integer. -/
def gridStep (i : RoundingInterval) (p : Int) : Nat :=
  Nat.pow 10 p.toNat * Nat.pow 2 (-i.unit).toNat

/-- The unit of an interval, on the scale of the grid's step. -/
def unitStep (i : RoundingInterval) (p : Int) : Nat :=
  Nat.pow 2 i.unit.toNat * Nat.pow 10 (-p).toNat

/-- Is a multiple of the grid's step in the interval? -/
def inside (i : RoundingInterval) (p : Int) (d : Nat) : Bool :=
  d ≠ 0 && if i.closed then
      i.low * i.unitStep p ≤ d * i.gridStep p && d * i.gridStep p ≤ i.high * i.unitStep p
    else i.low * i.unitStep p < d * i.gridStep p && d * i.gridStep p < i.high * i.unitStep p

theorem gridStep_pos (i : RoundingInterval) (p : Int) : 0 < i.gridStep p :=
  Nat.mul_pos (Nat.pow_pos (by decide)) (Nat.pow_pos (by decide))

/-- What grid and interval are scaled by. -/
def scale (i : RoundingInterval) (p : Int) : ℚ :=
  2 ^ (-i.unit).toNat * 10 ^ (-p).toNat

theorem scale_pos (i : RoundingInterval) (p : Int) : 0 < i.scale p := by
  unfold scale
  positivity

theorem cast_mul_unitStep (n : Nat) :
    ((n * i.unitStep p : Nat) : ℚ) = n * 2 ^ i.unit * i.scale p := by
  have hcast : ((i.unitStep p : Nat) : ℚ) = 2 ^ i.unit.toNat * 10 ^ (-p).toNat := by
    exact_mod_cast rfl
  rw [Nat.cast_mul, hcast, ← zpow_mul_pow_toNat two_ne_zero i.unit, scale]
  ring

theorem cast_mul_gridStep (n : Nat) :
    ((n * i.gridStep p : Nat) : ℚ) = n * 10 ^ p * i.scale p := by
  have hcast : ((i.gridStep p : Nat) : ℚ) = 10 ^ p.toNat * 2 ^ (-i.unit).toNat := by
    exact_mod_cast rfl
  rw [Nat.cast_mul, hcast, ← zpow_mul_pow_toNat (by norm_num) p, scale]
  ring

/-- On the common scale, what is tested is whether the interval contains the multiple. -/
theorem inside_iff {d : Nat} :
    i.inside p d = true ↔ d ≠ 0 ∧ i.Contains (d * 10 ^ p) := by
  have hpos := i.scale_pos p
  unfold inside Contains
  cases i.closed
  · simp only [Bool.false_eq_true, if_false, Bool.and_eq_true, decide_eq_true_eq,
      ← Nat.cast_lt (α := ℚ), cast_mul_unitStep, cast_mul_gridStep, mul_lt_mul_iff_left₀ hpos]
  · simp only [if_true, Bool.and_eq_true, decide_eq_true_eq,
      ← Nat.cast_le (α := ℚ), cast_mul_unitStep, cast_mul_gridStep, mul_le_mul_iff_left₀ hpos]

/-- The last multiple of the grid's step that is not above the centre. -/
def below (i : RoundingInterval) (p : Int) : Nat :=
  i.centre * i.unitStep p / i.gridStep p

/-- What is found on a grid is in the interval, and nothing is found only if the next
multiple above the centre is not. -/
theorem nearest?_cases (i : RoundingInterval) (p : Int) :
    (∃ d, i.nearest? p = some d ∧ i.inside p d = true) ∨
      (i.nearest? p = none ∧ i.inside p (i.below p + 1) = false) := by
  generalize hresult : i.nearest? p = result
  unfold nearest? at hresult
  dsimp only at hresult
  split at hresult
  next hbelow habove =>
    subst hresult
    refine .inl ⟨_, rfl, ?_⟩
    split
    · exact hbelow
    · exact habove
  next hbelow _ => exact .inl ⟨_, hresult.symm, hbelow⟩
  next _ habove => exact .inl ⟨_, hresult.symm, habove⟩
  next _ habove => exact .inr ⟨hresult.symm, habove⟩

theorem inside_of_nearest? {d : Nat} (h : i.nearest? p = some d) : i.inside p d = true := by
  rcases i.nearest?_cases p with ⟨other, hother, hinside⟩ | ⟨hnone, -⟩
  · rw [h] at hother
    cases hother
    exact hinside
  · rw [h] at hnone
    cases hnone

/-- On a grid that is finer than the upper half of the interval something is found. -/
theorem exists_nearest_of_fine (hcentre : i.low ≤ i.centre) (hhigh : i.high = i.centre + 2)
    (hfine : (10 : ℚ) ^ p < 2 * 2 ^ i.unit) : ∃ d, i.nearest? p = some d := by
  have hpos := i.scale_pos p
  have hunit : (0 : ℚ) < 2 ^ i.unit := by positivity
  have hover : i.centre * i.unitStep p < (i.below p + 1) * i.gridStep p :=
    Nat.lt_mul_of_div_lt (Nat.lt_succ_self _) (i.gridStep_pos p)
  have hunder : i.below p * i.gridStep p ≤ i.centre * i.unitStep p := Nat.div_mul_le_self _ _
  rw [← Nat.cast_lt (α := ℚ), cast_mul_unitStep, cast_mul_gridStep,
    mul_lt_mul_iff_left₀ hpos] at hover
  rw [← Nat.cast_le (α := ℚ), cast_mul_unitStep, cast_mul_gridStep,
    mul_le_mul_iff_left₀ hpos] at hunder
  have hinside : i.inside p (i.below p + 1) = true := by
    refine inside_iff.mpr ⟨Nat.succ_ne_zero _, contains_of_lt ?_ ?_⟩
    · have hlow : (i.low : ℚ) * 2 ^ i.unit ≤ i.centre * 2 ^ i.unit :=
        mul_le_mul_of_nonneg_right (Nat.cast_le.mpr hcentre) hunit.le
      exact hlow.trans_lt hover
    · rw [hhigh]
      push_cast
      linarith
  rcases i.nearest?_cases p with ⟨d, hd, -⟩ | ⟨-, houtside⟩
  · exact ⟨d, hd⟩
  · rw [hinside] at houtside
    cases houtside

end RoundingInterval

/-- The search ends on the first grid that has a point in the interval. -/
theorem nearest?_searchGrids {i : RoundingInterval} {fuel : Nat} {p : Int}
    (h : ∃ k < fuel, ∃ d, i.nearest? (p - k) = some d) :
    i.nearest? (searchGrids i fuel p).exponent = some (searchGrids i fuel p).digits := by
  induction fuel generalizing p with
  | zero =>
      obtain ⟨k, hk, -⟩ := h
      exact absurd hk (Nat.not_lt_zero k)
  | succ fuel ih =>
      rw [searchGrids]
      cases hnearest : i.nearest? p with
      | some d => exact hnearest
      | none =>
          apply ih
          obtain ⟨k, hk, d, hd⟩ := h
          cases k with
          | zero =>
              rw [Nat.cast_zero, Int.sub_zero, hnearest] at hd
              cases hd
          | succ k =>
              refine ⟨k, Nat.lt_of_succ_lt_succ hk, d, ?_⟩
              have hgrid : p - 1 - (k : Int) = p - ((k + 1 : Nat) : Int) := by omega
              rw [hgrid]
              exact hd

/-! ## The last grid of the search -/

theorem ten_pow_le_two_pow {n k : Nat} (h : 10 * n ≤ 3 * k) : 10 ^ n ≤ 2 ^ k := by
  have hcube : (10 ^ n) ^ 3 ≤ (2 ^ k) ^ 3 :=
    calc (10 ^ n) ^ 3 = 1000 ^ n := by rw [← pow_mul, mul_comm n 3, pow_mul]; norm_num
      _ ≤ 1024 ^ n := Nat.pow_le_pow_left (by decide) n
      _ = 2 ^ (10 * n) := by rw [pow_mul]; norm_num
      _ ≤ 2 ^ (3 * k) := Nat.pow_le_pow_right (by decide) h
      _ = (2 ^ k) ^ 3 := by rw [← pow_mul, mul_comm]
  exact (Nat.pow_le_pow_iff_left (by decide)).mp hcube

theorem two_pow_le_ten_pow {n k : Nat} (h : 4 * k ≤ 13 * n) : 2 ^ k ≤ 10 ^ n := by
  have hfourth : (2 ^ k) ^ 4 ≤ (10 ^ n) ^ 4 :=
    calc (2 ^ k) ^ 4 = 2 ^ (4 * k) := by rw [← pow_mul, mul_comm]
      _ ≤ 2 ^ (13 * n) := Nat.pow_le_pow_right (by decide) h
      _ = 8192 ^ n := by rw [pow_mul]; norm_num
      _ ≤ 10000 ^ n := Nat.pow_le_pow_left (by decide) n
      _ = (10 ^ n) ^ 4 := by rw [← pow_mul, mul_comm n 4, pow_mul]; norm_num
  exact (Nat.pow_le_pow_iff_left (by decide)).mp hfourth

/-- Thirty-one grids below the first one, the step is finer than the last binary digit. -/
theorem last_grid_fine {order : Int} (hleast : leastExponent ≤ order)
    (hbounded : order < overflowExponent) :
    (10 : ℚ) ^ (order * 30103 / 100000 + 2 - 31) < 2 ^ (order - 53) := by
  unfold leastExponent at hleast
  unfold overflowExponent at hbounded
  obtain ⟨n, hn | hn⟩ := Int.eq_nat_or_neg (order * 30103 / 100000 + 2 - 31)
  · rw [hn, zpow_natCast]
    let k := (10 * n + 2) / 3
    have hpow : 10 ^ n ≤ 2 ^ k := ten_pow_le_two_pow (by omega)
    have hcast : (10 : ℚ) ^ n ≤ 2 ^ (k : Int) := by exact_mod_cast hpow
    exact hcast.trans_lt (zpow_lt_zpow_right₀ one_lt_two (by omega))
  · rw [hn, zpow_neg, zpow_natCast]
    let k := 13 * n / 4
    have hpow : 2 ^ k ≤ 10 ^ n := two_pow_le_ten_pow (by omega)
    have hcast : (2 : ℚ) ^ (k : Int) ≤ 10 ^ n := by exact_mod_cast hpow
    have hinverse : ((10 : ℚ) ^ n)⁻¹ ≤ 2 ^ (-(k : Int)) := by
      rw [zpow_neg]
      exact inv_anti₀ (by positivity) hcast
    exact hinverse.trans_lt (zpow_lt_zpow_right₀ one_lt_two (by omega))

/-! ## Results -/

/-- The shortest decimal form of a double rounds to it. -/
theorem contains_shortest {m : Nat} {e : Int} (h : InFormat m e) :
    (shortest m e).digits ≠ 0 ∧ (roundingInterval m e).Contains (shortest m e).value := by
  let order := (Nat.log2 m : Int) + e
  obtain ⟨significand, unit, hinterval, haligned, -, -, horder⟩ := exists_aligned h
  have hlow : (alignedInterval significand unit).low ≤ 4 * significand := by
    unfold alignedInterval
    dsimp only
    split <;> omega
  have hleast : leastExponent ≤ order := by
    have hexponent := h.least
    omega
  have hfine : (10 : ℚ) ^ (order * 30103 / 100000 + 2 - 31) < 2 * 2 ^ (unit - 2) := by
    refine (last_grid_fine hleast h.bounded).trans_le ?_
    rw [← zpow_one_add₀ two_ne_zero]
    exact zpow_le_zpow_right₀ one_le_two (by omega)
  have hlast : ∃ k < 32, ∃ d,
      (roundingInterval m e).nearest? (order * 30103 / 100000 + 2 - (k : Nat)) = some d := by
    rw [hinterval]
    exact ⟨31, by decide, RoundingInterval.exists_nearest_of_fine hlow rfl hfine⟩
  have hfound := nearest?_searchGrids hlast
  exact RoundingInterval.inside_iff.mp (RoundingInterval.inside_of_nearest? hfound)

/-- No two doubles have the same shortest decimal form. -/
theorem eq_of_value_shortest_eq {m n : Nat} {e f : Int} (hm : InFormat m e) (hn : InFormat n f)
    (h : (shortest m e).value = (shortest n f).value) : m = n ∧ e = f := by
  have hcontains := (contains_shortest hm).2
  rw [h] at hcontains
  exact eq_of_contains hm hn hcontains (contains_shortest hn).2

end NetworkTopology.Binary64
