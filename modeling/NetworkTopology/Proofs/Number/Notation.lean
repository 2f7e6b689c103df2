import NetworkTopology.Json.Reader
import NetworkTopology.Proofs.Number.ReadBack
import NetworkTopology.Proofs.Number.Shortest

/-!
# Notations of doubles

A notation that sets out a decimal form is read as the number that the form stands
for, however the point and the exponent are placed.  As the shortest form of a double
is the form of no other one, no two doubles have the same notation, and none has the
notation of an integer.
-/

namespace NetworkTopology

namespace Decimal

theorem ofDigits_append (ds es : List Nat) :
    ofDigits (ds ++ es) = ofDigits ds * 10 ^ es.length + ofDigits es := by
  induction es using List.reverseRecOn with
  | nil => simp [ofDigits]
  | append_singleton es e ih =>
      rw [← List.append_assoc, ofDigits_append_singleton, ofDigits_append_singleton, ih,
        List.length_append, List.length_singleton, pow_succ]
      ring

theorem ofDigits_replicate (k : Nat) : ofDigits (List.replicate k 0) = 0 := by
  induction k with
  | zero => rfl
  | succ k ih => rw [List.replicate_succ', ofDigits_append_singleton, ih]

theorem isDigit_digitChar {d : Nat} (h : d < 10) : (digitChar d).isDigit = true := by
  have all : ∀ d < 10, (digitChar d).isDigit = true := by decide
  exact all d h

theorem replicate_zero_char (k : Nat) :
    List.replicate k '0' = (List.replicate k 0).map digitChar :=
  (List.map_replicate (f := digitChar) (n := k) (a := 0)).symm

theorem lt_of_mem_replicate_zero {k d : Nat} (h : d ∈ List.replicate k 0) : d < 10 := by
  rw [List.eq_of_mem_replicate h]
  decide

end Decimal

namespace Binary64

open Decimal (digits digitChar natural ofDigits)

/-- The number that a notation is read as, before it is rounded. -/
def notated (cs : List Char) : ℚ :=
  let (whole, rest) := Json.splitDigits cs
  let (fraction, rest) := Json.splitFraction rest
  ofDigits (whole ++ fraction) * 10 ^ ((Json.splitExponent rest).1.getD 0 - fraction.length)

/-! ## Reading digits -/

section Reading

variable {whole fraction : List Nat} {rest : List Char}

/-- What ends a row of digits: no further digit. -/
def StopsDigits (rest : List Char) : Prop :=
  ∀ c ∈ rest.head?, c.isDigit = false

theorem stopsDigits_nil : StopsDigits [] := by
  intro c hc
  cases hc

theorem stopsDigits_cons {c : Char} (h : c.isDigit = false) (rest : List Char) :
    StopsDigits (c :: rest) := by
  rintro c ⟨⟩
  exact h

theorem splitDigits_append (hwhole : ∀ d ∈ whole, d < 10)
    (hrest : StopsDigits rest) :
    Json.splitDigits (whole.map digitChar ++ rest) = (whole, rest) := by
  have hdigit : ∀ c ∈ whole.map digitChar, c.isDigit = true := by
    intro c hc
    obtain ⟨d, hd, rfl⟩ := List.mem_map.mp hc
    exact Decimal.isDigit_digitChar (hwhole d hd)
  have htake : rest.takeWhile Char.isDigit = [] := by
    cases rest with
    | nil => rfl
    | cons c rest =>
        exact List.takeWhile_cons_of_neg (by rw [hrest c rfl]; exact Bool.false_ne_true)
  have hdrop : rest.dropWhile Char.isDigit = rest := by
    cases rest with
    | nil => rfl
    | cons c rest =>
        exact List.dropWhile_cons_of_neg (by rw [hrest c rfl]; exact Bool.false_ne_true)
  have hvalues : (whole.map digitChar).map (fun c => c.toNat - '0'.toNat) = whole := by
    rw [List.map_map]
    exact (List.map_congr_left fun d hd => Decimal.digitChar_toNat (hwhole d hd)).trans
      (List.map_id _)
  rw [Json.splitDigits, List.takeWhile_append_of_pos hdigit, List.dropWhile_append_of_pos hdigit,
    htake, hdrop, List.append_nil, hvalues]

theorem splitFraction_point (hne : fraction ≠ []) (hfraction : ∀ d ∈ fraction, d < 10)
    (hrest : StopsDigits rest) :
    Json.splitFraction ('.' :: (fraction.map digitChar ++ rest)) = (fraction, rest) := by
  rw [Json.splitFraction, splitDigits_append hfraction hrest]
  cases fraction with
  | nil => exact absurd rfl hne
  | cons d fraction => rfl

theorem notated_point (hwhole : ∀ d ∈ whole, d < 10) (hne : fraction ≠ [])
    (hfraction : ∀ d ∈ fraction, d < 10) (hrest : StopsDigits rest) :
    notated (whole.map digitChar ++ '.' :: (fraction.map digitChar ++ rest)) =
      ofDigits (whole ++ fraction) *
        10 ^ ((Json.splitExponent rest).1.getD 0 - fraction.length) := by
  rw [notated, splitDigits_append hwhole (stopsDigits_cons rfl _)]
  dsimp only
  rw [splitFraction_point hne hfraction hrest]

theorem notated_exponent (hwhole : ∀ d ∈ whole, d < 10) (rest : List Char) :
    notated (whole.map digitChar ++ 'e' :: rest) =
      ofDigits whole * 10 ^ ((Json.splitExponent ('e' :: rest)).1.getD 0) := by
  rw [notated, splitDigits_append hwhole (stopsDigits_cons rfl _)]
  dsimp only
  rw [Json.splitFraction]
  · simp
  · intro other h
    cases h

theorem lt_of_mem_padded {k n d : Nat} (h : d ∈ List.replicate k 0 ++ digits n) : d < 10 := by
  rcases List.mem_append.mp h with h | h
  · exact Decimal.lt_of_mem_replicate_zero h
  · exact Decimal.lt_of_mem_digits h

theorem ofDigits_padded (k n : Nat) : ofDigits (List.replicate k 0 ++ digits n) = n := by
  rw [Decimal.ofDigits_append, Decimal.ofDigits_replicate, Decimal.ofDigits_digits, Nat.zero_mul,
    Nat.zero_add]

theorem splitExponent_exponent (style : NotationStyle) (e : Int) :
    Json.splitExponent (style.exponent e) = (some e, []) := by
  let padding := List.replicate (style.exponentDigits - (natural e.natAbs).length) 0
  have hdigits : List.replicate (style.exponentDigits - (natural e.natAbs).length) '0' ++
      natural e.natAbs = (padding ++ digits e.natAbs).map digitChar ++ [] := by
    rw [Decimal.replicate_zero_char, List.append_nil, List.map_append]
    rfl
  have hlt : ∀ d ∈ padding ++ digits e.natAbs, d < 10 := fun _ => lt_of_mem_padded
  have hread := splitDigits_append hlt stopsDigits_nil
  have hvalue : ofDigits (padding ++ digits e.natAbs) = e.natAbs := ofDigits_padded _ _
  obtain ⟨d, ds, hcons⟩ := List.exists_cons_of_ne_nil
    (List.append_ne_nil_of_right_ne_nil padding (Decimal.digits_ne_nil e.natAbs))
  rw [NotationStyle.exponent, hdigits]
  by_cases hneg : e < 0
  · have habs : -(e.natAbs : Int) = e := by omega
    rw [if_pos hneg, Json.splitExponent, if_pos (.inl rfl), hread, hcons]
    dsimp only
    rw [← hcons, hvalue, if_pos rfl, habs]
  · have habs : (e.natAbs : Int) = e := by omega
    rw [if_neg hneg, Json.splitExponent, if_pos (.inl rfl), hread, hcons]
    dsimp only
    rw [← hcons, hvalue, if_neg Bool.false_ne_true, habs]

/-! ## Setting out -/

/-- Zeros fill the places up to the point. -/
theorem notated_integer (n k : Nat) :
    notated (natural n ++ List.replicate k '0' ++ ['.', '0']) = n * 10 ^ k := by
  have hcs : natural n ++ List.replicate k '0' ++ ['.', '0'] =
      (digits n ++ List.replicate k 0).map digitChar ++ '.' :: ([0].map digitChar ++ []) := by
    rw [List.map_append, ← Decimal.replicate_zero_char]
    rfl
  have hwhole : ∀ d ∈ digits n ++ List.replicate k 0, d < 10 := by
    intro d hd
    rcases List.mem_append.mp hd with hd | hd
    · exact Decimal.lt_of_mem_digits hd
    · exact Decimal.lt_of_mem_replicate_zero hd
  have hfraction : ∀ d ∈ [0], d < 10 := by decide
  have hvalue : ofDigits (digits n ++ List.replicate k 0 ++ [0]) = n * 10 ^ k * 10 := by
    rw [Decimal.ofDigits_append_singleton, Decimal.ofDigits_append, Decimal.ofDigits_replicate,
      Decimal.ofDigits_digits, List.length_replicate]
    ring
  rw [hcs, notated_point hwhole (List.cons_ne_nil _ _) hfraction stopsDigits_nil, hvalue]
  push_cast
  change (n : ℚ) * 10 ^ k * 10 * 10 ^ (-1 : Int) = n * 10 ^ k
  rw [mul_assoc, ← zpow_one_add₀ (by norm_num)]
  exact mul_one _

/-- The point stands among the digits. -/
theorem notated_among {n k : Nat} (hk : k < (digits n).length) :
    notated ((natural n).take k ++ '.' :: (natural n).drop k) =
      n * 10 ^ ((k : Int) - (digits n).length) := by
  have hcs : (natural n).take k ++ '.' :: (natural n).drop k =
      ((digits n).take k).map digitChar ++ '.' :: (((digits n).drop k).map digitChar ++ []) := by
    rw [natural, List.map_take, List.map_drop, List.append_nil]
  have hwhole : ∀ d ∈ (digits n).take k, d < 10 :=
    fun d hd => Decimal.lt_of_mem_digits (List.mem_of_mem_take hd)
  have hfraction : ∀ d ∈ (digits n).drop k, d < 10 :=
    fun d hd => Decimal.lt_of_mem_digits (List.mem_of_mem_drop hd)
  have hne : (digits n).drop k ≠ [] := by
    rw [Ne, List.drop_eq_nil_iff]
    omega
  rw [hcs, notated_point hwhole hne hfraction stopsDigits_nil, List.take_append_drop,
    Decimal.ofDigits_digits, List.length_drop]
  congr 2
  change (0 : Int) - _ = _
  omega

/-- Zeros stand between the point and the digits. -/
theorem notated_below (n k : Nat) :
    notated ('0' :: '.' :: List.replicate k '0' ++ natural n) =
      n * 10 ^ (-((k + (digits n).length : Nat) : Int)) := by
  have hcs : '0' :: '.' :: List.replicate k '0' ++ natural n =
      [0].map digitChar ++ '.' :: ((List.replicate k 0 ++ digits n).map digitChar ++ []) := by
    rw [List.append_nil, List.map_append, ← Decimal.replicate_zero_char]
    rfl
  have hwhole : ∀ d ∈ [0], d < 10 := by decide
  have hne : List.replicate k 0 ++ digits n ≠ [] :=
    List.append_ne_nil_of_right_ne_nil _ (Decimal.digits_ne_nil n)
  have hvalue : ofDigits ([0] ++ (List.replicate k 0 ++ digits n)) = n :=
    ofDigits_padded (k + 1) n
  rw [hcs, notated_point hwhole hne (fun _ => lt_of_mem_padded) stopsDigits_nil, hvalue,
    List.length_append, List.length_replicate]
  congr 2
  exact Int.zero_sub _

/-- One digit stands before the point, and an exponent says where the point belongs. -/
theorem notated_scientific (style : NotationStyle) {n d : Nat} {ds : List Nat}
    (hdigits : digits n = d :: ds) (order : Int) :
    notated (match natural n with
      | [] => []
      | [c] => c :: style.exponent order
      | c :: rest => c :: '.' :: rest ++ style.exponent order) =
      n * 10 ^ (order - ds.length) := by
  have hlt : ∀ k ∈ d :: ds, k < 10 := by
    rw [← hdigits]
    exact fun k hk => Decimal.lt_of_mem_digits hk
  have hvalue : ofDigits (d :: ds) = n := by
    rw [← hdigits]
    exact Decimal.ofDigits_digits n
  have hexponent : (Json.splitExponent (style.exponent order)).1.getD 0 = order := by
    rw [splitExponent_exponent]
    rfl
  rw [natural, hdigits]
  cases ds with
  | nil =>
      have hread := notated_exponent hlt (style.exponent order).tail
      rw [hvalue] at hread
      refine hread.trans ?_
      congr 2
      rw [List.length_nil, Nat.cast_zero, Int.sub_zero]
      exact hexponent
  | cons next ds =>
      obtain ⟨hd, hds⟩ := List.forall_mem_cons.mp hlt
      have hmark : StopsDigits (style.exponent order) := stopsDigits_cons rfl _
      have hread := notated_point (List.forall_mem_singleton.mpr hd) (List.cons_ne_nil next ds)
        hds hmark
      rw [hexponent, List.singleton_append, hvalue] at hread
      exact hread

/-- However a decimal form is set out, it is read as its number. -/
theorem notated_setOut (style : NotationStyle) (d : DecimalForm) :
    notated (style.setOut d) = d.value := by
  have hlength : (natural d.digits).length = (digits d.digits).length := List.length_map _
  obtain ⟨first, ds, hdigits⟩ := List.exists_cons_of_ne_nil (Decimal.digits_ne_nil d.digits)
  have hcount : (digits d.digits).length = ds.length + 1 := by
    rw [hdigits]
    rfl
  unfold NotationStyle.setOut DecimalForm.value
  dsimp only
  rw [hlength]
  split
  · split
    · rename_i hexponent
      rw [notated_integer, ← zpow_natCast, Int.toNat_of_nonneg hexponent]
    · split
      · rw [notated_among (by omega)]
        congr 2
        omega
      · rw [notated_below]
        congr 2
        omega
  · refine (notated_scientific style hdigits _).trans ?_
    congr 2
    omega

end Reading

/-! ## Characters -/

/-- A character of a notation that sets out digits. -/
def IsNotational (c : Char) : Prop :=
  c.isDigit = true ∨ c ∈ ['.', 'e', '+', '-']

theorem isNotational_of_mem_natural {n : Nat} {c : Char} (h : c ∈ natural n) : IsNotational c := by
  obtain ⟨d, hd, rfl⟩ := List.mem_map.mp h
  exact .inl (Decimal.isDigit_digitChar (Decimal.lt_of_mem_digits hd))

theorem isNotational_of_mem_zeros {k : Nat} {c : Char} (h : c ∈ List.replicate k '0') :
    IsNotational c := by
  rw [List.eq_of_mem_replicate h]
  exact .inl rfl

theorem isNotational_of_mem_exponent {style : NotationStyle} {e : Int} {c : Char}
    (h : c ∈ style.exponent e) : IsNotational c := by
  rw [NotationStyle.exponent] at h
  rcases List.mem_cons.mp h with rfl | h
  · exact .inr (by decide)
  · rcases List.mem_cons.mp h with rfl | h
    · split
      · exact .inr (by decide)
      · exact .inr (by decide)
    · rcases List.mem_append.mp h with h | h
      · exact isNotational_of_mem_zeros h
      · exact isNotational_of_mem_natural h

/-- What follows the first digit of a double. -/
structure Tail (cs : List Char) : Prop where
  notational : ∀ c ∈ cs, IsNotational c
  /-- A point or an exponent tells it from the rest of an integer. -/
  marked : '.' ∈ cs ∨ 'e' ∈ cs

theorem tail_point {front back : List Char} (hfront : ∀ c ∈ front, IsNotational c)
    (hback : ∀ c ∈ back, IsNotational c) : Tail (front ++ '.' :: back) := by
  refine ⟨?_, .inl (List.mem_append_right _ List.mem_cons_self)⟩
  intro c hc
  rcases List.mem_append.mp hc with hc | hc
  · exact hfront c hc
  · rcases List.mem_cons.mp hc with rfl | hc
    · exact .inr (by decide)
    · exact hback c hc

/-- A decimal form is set out with a digit in front. -/
theorem exists_setOut_eq (style : NotationStyle) (f : DecimalForm) :
    ∃ d < 10, ∃ rest, style.setOut f = digitChar d :: rest ∧ Tail rest := by
  obtain ⟨d, ds, hdigits⟩ := List.exists_cons_of_ne_nil (Decimal.digits_ne_nil f.digits)
  have hd : d < 10 := Decimal.lt_of_mem_digits (hdigits ▸ List.mem_cons_self)
  have hnatural : natural f.digits = digitChar d :: ds.map digitChar := by
    rw [natural, hdigits, List.map_cons]
  have hrest : ∀ c ∈ ds.map digitChar, IsNotational c := by
    intro c hc
    refine isNotational_of_mem_natural (n := f.digits) ?_
    rw [hnatural]
    exact List.mem_cons_of_mem _ hc
  unfold NotationStyle.setOut
  dsimp only
  split
  · split
    · refine ⟨d, hd, ds.map digitChar ++ List.replicate f.exponent.toNat '0' ++ ['.', '0'], ?_,
        tail_point ?_ ?_⟩
      · rw [hnatural]
        rfl
      · intro c hc
        rcases List.mem_append.mp hc with hc | hc
        · exact hrest c hc
        · exact isNotational_of_mem_zeros hc
      · exact fun c hc => isNotational_of_mem_zeros (k := 1) hc
    · split
      · rename_i horder
        obtain ⟨k, hk⟩ : ∃ k, (f.exponent + (natural f.digits).length - 1 + 1).toNat = k + 1 :=
          ⟨(f.exponent + (natural f.digits).length - 1).toNat, by omega⟩
        refine ⟨d, hd, (ds.map digitChar).take k ++ '.' :: (ds.map digitChar).drop k, ?_,
          tail_point (fun c hc => hrest c (List.mem_of_mem_take hc))
            fun c hc => hrest c (List.mem_of_mem_drop hc)⟩
        rw [hk, hnatural]
        rfl
      · refine ⟨0, by decide, _, rfl, tail_point (List.forall_mem_nil _) ?_⟩
        intro c hc
        rcases List.mem_append.mp hc with hc | hc
        · exact isNotational_of_mem_zeros hc
        · exact isNotational_of_mem_natural hc
  · rw [hnatural]
    cases ds with
    | nil =>
        exact ⟨d, hd, _, rfl, fun c hc => isNotational_of_mem_exponent hc, .inr List.mem_cons_self⟩
    | cons next ds =>
        refine ⟨d, hd, _, rfl, tail_point (List.forall_mem_nil _) ?_⟩
        intro c hc
        rcases List.mem_append.mp hc with hc | hc
        · exact hrest c hc
        · exact isNotational_of_mem_exponent hc

/-! ## Signs -/

/-- Does the notation have a sign? -/
def isNegative : Binary64 → Bool
  | nan => false
  | infinite negative | finite negative _ _ => negative

/-- The notation without its sign. -/
def magnitude : Binary64 → List Char
  | nan => ['n', 'a', 'n']
  | infinite _ => ['i', 'n', 'f']
  | finite _ m e => if m = 0 then ['0', '.', '0'] else documentStyle.setOut (shortest m e)

theorem chars_eq (x : Binary64) :
    x.chars = (if x.isNegative then ['-'] else []) ++ x.magnitude := by
  cases x <;> rfl

/-- The notation of a finite double starts with a digit behind the sign. -/
theorem exists_magnitude_finite (negative : Bool) (m : Nat) (e : Int) :
    ∃ d < 10, ∃ rest, (finite negative m e).magnitude = digitChar d :: rest ∧ Tail rest := by
  rw [magnitude]
  split
  · have hzero : ∀ c ∈ ['0'], IsNotational c := fun _ => isNotational_of_mem_zeros (k := 1)
    exact ⟨0, by decide, ['.', '0'], rfl, tail_point (List.forall_mem_nil _) hzero⟩
  · exact exists_setOut_eq documentStyle (shortest m e)

theorem ne_minus_of_mem_head {x : Binary64} {c : Char} (h : c ∈ x.magnitude.head?) :
    c ≠ '-' := by
  cases x with
  | nan =>
      cases h
      decide
  | infinite negative =>
      cases h
      decide
  | finite negative m e =>
      obtain ⟨d, hd, rest, hmagnitude, -⟩ := exists_magnitude_finite negative m e
      rw [hmagnitude] at h
      cases h
      rintro hminus
      have hdigit := Decimal.isDigit_digitChar hd
      rw [hminus] at hdigit
      cases hdigit

theorem parts_of_chars_eq {x y : Binary64} (h : x.chars = y.chars) :
    x.isNegative = y.isNegative ∧ x.magnitude = y.magnitude := by
  rw [chars_eq, chars_eq] at h
  have hnone : ∀ {x : Binary64} {cs : List Char}, x.magnitude ≠ '-' :: cs := by
    intro x cs heq
    exact ne_minus_of_mem_head (x := x) (by rw [heq]; rfl) rfl
  cases hx : x.isNegative <;> cases hy : y.isNegative <;> rw [hx, hy] at h
  · exact ⟨rfl, h⟩
  · exact absurd h hnone
  · exact absurd h.symm hnone
  · exact ⟨rfl, (List.cons.inj h).2⟩

/-- The number that the magnitude of a finite double is read as. -/
theorem notated_magnitude {negative : Bool} {m : Nat} {e : Int} :
    notated (finite negative m e).magnitude = if m = 0 then 0 else (shortest m e).value := by
  rw [magnitude]
  split
  · have hzero := notated_integer 0 0
    rw [natural, Decimal.digits_of_lt (by decide), Nat.cast_zero, zero_mul] at hzero
    exact hzero
  · exact notated_setOut documentStyle (shortest m e)

theorem value_shortest_pos {m : Nat} {e : Int} (h : InFormat m e) : 0 < (shortest m e).value := by
  have hdigits : (0 : ℚ) < (shortest m e).digits :=
    Nat.cast_pos.mpr (Nat.pos_of_ne_zero (contains_shortest h).1)
  unfold DecimalForm.value
  positivity

/-- Magnitudes tell finite doubles of the format apart. -/
theorem eq_of_magnitude_finite {negative : Bool} {m n : Nat} {e f : Int}
    (hx : (finite negative m e).Canonical) (hy : (finite negative n f).Canonical)
    (h : (finite negative m e).magnitude = (finite negative n f).magnitude) :
    finite negative m e = finite negative n f := by
  have hvalue := congrArg notated h
  rw [notated_magnitude, notated_magnitude] at hvalue
  have hne : ∀ {m : Nat} {e : Int}, InFormat m e → m ≠ 0 := by
    rintro m e hformat rfl
    exact absurd hformat.odd (by decide)
  rcases hx with ⟨rfl, rfl⟩ | hm <;> rcases hy with ⟨rfl, rfl⟩ | hn
  · rfl
  · rw [if_pos rfl, if_neg (hne hn)] at hvalue
    exact absurd hvalue (value_shortest_pos hn).ne
  · rw [if_pos rfl, if_neg (hne hm)] at hvalue
    exact absurd hvalue (value_shortest_pos hm).ne'
  · rw [if_neg (hne hm), if_neg (hne hn)] at hvalue
    obtain ⟨rfl, rfl⟩ := eq_of_value_shortest_eq hm hn hvalue
    rfl

theorem eq_of_chars_eq {x y : Binary64} (hx : x.Canonical) (hy : y.Canonical)
    (h : x.chars = y.chars) : x = y := by
  obtain ⟨hsign, hmagnitude⟩ := parts_of_chars_eq h
  -- A finite magnitude starts with a digit, the others do not.
  have hdigit : ∀ {negative : Bool} {m : Nat} {e : Int} {c : Char} {cs : List Char},
      (finite negative m e).magnitude = c :: cs → c.isDigit = true := by
    intro negative m e c cs hcs
    obtain ⟨d, hd, rest, hrest, -⟩ := exists_magnitude_finite negative m e
    rw [hrest] at hcs
    cases hcs
    exact Decimal.isDigit_digitChar hd
  have hword : ['n', 'a', 'n'] ≠ ['i', 'n', 'f'] := by decide
  cases x with
  | nan =>
      cases y with
      | nan => rfl
      | infinite sign => exact absurd hmagnitude hword
      | finite sign n f => exact absurd (hdigit hmagnitude.symm) (by decide)
  | infinite negative =>
      cases y with
      | nan => exact absurd hmagnitude.symm hword
      | infinite sign => exact congrArg infinite hsign
      | finite sign n f => exact absurd (hdigit hmagnitude.symm) (by decide)
  | finite negative m e =>
      cases y with
      | nan => exact absurd (hdigit hmagnitude) (by decide)
      | infinite sign => exact absurd (hdigit hmagnitude) (by decide)
      | finite sign n f =>
          obtain rfl : negative = sign := hsign
          exact eq_of_magnitude_finite hx hy hmagnitude

/-- No double has the notation of an integer. -/
theorem chars_ne_integer (x : Binary64) (n : Int) : x.chars ≠ Decimal.integer n := by
  intro h
  have hmark : '.' ∈ x.chars ∨ 'e' ∈ x.chars ∨ 'n' ∈ x.chars := by
    rw [chars_eq]
    cases x with
    | nan => exact .inr (.inr (by decide))
    | infinite negative => cases negative <;> exact .inr (.inr (by decide))
    | finite negative m e =>
        obtain ⟨d, -, rest, hrest, htail⟩ := exists_magnitude_finite negative m e
        rw [hrest]
        rcases htail.marked with hpoint | hexponent
        · exact .inl (List.mem_append_right _ (List.mem_cons_of_mem _ hpoint))
        · exact .inr (.inl (List.mem_append_right _ (List.mem_cons_of_mem _ hexponent)))
  rw [h] at hmark
  rcases hmark with hmem | hmem | hmem <;>
    exact absurd (Decimal.mem_integer_cases hmem) (by decide)

end Binary64

end NetworkTopology
