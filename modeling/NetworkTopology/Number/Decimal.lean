/-!
# Decimal numerals

The decimal numeral of a natural number, most significant digit first, and the numeral of an
integer with its sign.  `ofDigits_digits` and `ofNatural_natural` say that reading a numeral gives
the number back.
-/

namespace NetworkTopology.Decimal

/-- The decimal digits of a number, most significant first, without leading zeros. -/
def digits (n : Nat) : List Nat :=
  if n < 10 then [n] else digits (n / 10) ++ [n % 10]

def ofDigits (ds : List Nat) : Nat :=
  ds.foldl (fun value d => 10 * value + d) 0

/-- The character of a digit below ten. -/
def digitChar (d : Nat) : Char :=
  Char.ofNat ('0'.toNat + d)

/-- The numeral of a natural number. -/
def natural (n : Nat) : List Char :=
  (digits n).map digitChar

/-- The number that a numeral of digits stands for. -/
def ofNatural (cs : List Char) : Nat :=
  ofDigits (cs.map fun c => c.toNat - '0'.toNat)

/-- The numeral of an integer: a minus sign stands in front of a negative one. -/
def integer (n : Int) : List Char :=
  if n < 0 then '-' :: natural n.natAbs else natural n.natAbs

/-- The numeral of an integer as text. -/
def text (n : Int) : String :=
  String.ofList (integer n)

theorem digits_of_lt {n : Nat} (h : n < 10) : digits n = [n] := by
  rw [digits, if_pos h]

theorem digits_of_le {n : Nat} (h : 10 ≤ n) : digits n = digits (n / 10) ++ [n % 10] := by
  rw [digits, if_neg (by omega)]

theorem ofDigits_append_singleton (ds : List Nat) (d : Nat) :
    ofDigits (ds ++ [d]) = 10 * ofDigits ds + d := by
  simp [ofDigits, List.foldl_append]

/-- Reading the digits of a number gives the number back. -/
theorem ofDigits_digits (n : Nat) : ofDigits (digits n) = n := by
  induction n using digits.induct with
  | case1 n h => rw [digits_of_lt h]; simp [ofDigits]
  | case2 n h ih =>
    rw [digits_of_le (by omega), ofDigits_append_singleton, ih]
    omega

theorem digits_ne_nil (n : Nat) : digits n ≠ [] := by
  rw [digits]
  split <;> simp

theorem lt_of_mem_digits {n d : Nat} (h : d ∈ digits n) : d < 10 := by
  induction n using digits.induct with
  | case1 n hn =>
    rw [digits_of_lt hn] at h
    simp only [List.mem_singleton] at h
    omega
  | case2 n hn ih =>
    rw [digits_of_le (by omega)] at h
    rcases List.mem_append.1 h with h | h
    · exact ih h
    · simp only [List.mem_singleton] at h
      omega

theorem digitChar_toNat {d : Nat} (h : d < 10) : (digitChar d).toNat - '0'.toNat = d := by
  have : ∀ d < 10, (digitChar d).toNat - '0'.toNat = d := by decide
  exact this d h

/-- Reading the numeral of a number gives the number back. -/
theorem ofNatural_natural (n : Nat) : ofNatural (natural n) = n := by
  have hmap : (natural n).map (fun c => c.toNat - '0'.toNat) = digits n := by
    have hdigit : ∀ d ∈ digits n, ((fun c => c.toNat - '0'.toNat) ∘ digitChar) d = id d :=
      fun d hd => digitChar_toNat (lt_of_mem_digits hd)
    rw [natural, List.map_map, List.map_congr_left hdigit, List.map_id]
  rw [ofNatural, hmap, ofDigits_digits]

end NetworkTopology.Decimal
