import Mathlib.Data.List.TakeWhile
import NetworkTopology.Proofs.Number.ReadBack

/-!
# Integer literals as they are spelled

A literal is a sign, if any, and digits of any scripts with single underscores between
them, within the digit limit.  What is read as an integer is a literal between blanks,
and every such text is read as what its literal denotes (`read?_eq_some_iff`).
-/

namespace NetworkTopology

open Text (digitValue? digitZeros trim trimBy isBlank blanks whiteSpace)

/-! ## Trimming -/

namespace Text

theorem dropWhile_append_of_forall {p : Char → Bool} {front : List Char}
    (h : ∀ c ∈ front, p c = true) (cs : List Char) :
    (front ++ cs).dropWhile p = cs.dropWhile p := by
  rw [List.dropWhile_append, List.dropWhile_eq_nil_iff.mpr h]
  rfl

/-- What stands between characters of a class is left when that class is trimmed, if it
holds none of them. -/
theorem trimBy_append {p : Char → Bool} {front cs back : List Char}
    (hfront : ∀ c ∈ front, p c = true) (hcs : ∀ c ∈ cs, p c = false)
    (hback : ∀ c ∈ back, p c = true) : trimBy p (front ++ cs ++ back) = cs := by
  have hback' : ∀ c ∈ back.reverse, p c = true := fun c hc => hback c (List.mem_reverse.mp hc)
  cases cs with
  | nil =>
      have hnone : (front ++ back).dropWhile p = [] := by
        rw [dropWhile_append_of_forall hfront, List.dropWhile_eq_nil_iff.mpr hback]
      rw [List.append_nil, trimBy, hnone]
      rfl
  | cons c cs =>
      have hc : p c = false := hcs c List.mem_cons_self
      have hdrop : (front ++ (c :: cs) ++ back).dropWhile p = c :: cs ++ back := by
        rw [List.append_assoc, dropWhile_append_of_forall hfront, List.cons_append,
          List.dropWhile_cons, hc]
        rfl
      have htrim := trimBy_of_forall hcs
      rw [trimBy, List.dropWhile_cons, hc] at htrim
      rw [trimBy, hdrop, List.reverse_append, dropWhile_append_of_forall hback']
      exact htrim

/-- A text is what trimming leaves of it between characters of the class. -/
theorem exists_eq_trimBy (p : Char → Bool) (cs : List Char) :
    ∃ front back, cs = front ++ trimBy p cs ++ back ∧
      (∀ c ∈ front, p c = true) ∧ ∀ c ∈ back, p c = true := by
  have hfront : cs.takeWhile p ++ cs.dropWhile p = cs := List.takeWhile_append_dropWhile
  have hback : (cs.dropWhile p).reverse.takeWhile p ++ (cs.dropWhile p).reverse.dropWhile p =
      (cs.dropWhile p).reverse := List.takeWhile_append_dropWhile
  refine ⟨cs.takeWhile p, ((cs.dropWhile p).reverse.takeWhile p).reverse, ?_, ?_, ?_⟩
  · rw [List.append_assoc, trimBy, ← List.reverse_append, hback, List.reverse_reverse, hfront]
  · intro c hc
    exact List.mem_takeWhile_imp hc
  · intro c hc
    exact List.mem_takeWhile_imp (List.mem_reverse.mp hc)

theorem isBlank_of_whiteSpace {c : Char} (h : whiteSpace.holds c = true) : isBlank c = true := by
  rw [isBlank, blanks, CodePoints.holds, List.any_cons, Bool.or_eq_true]
  exact .inr h

theorem isBlank_of_digitValue? {c : Char} {d : Nat} (h : digitValue? c = some d) :
    isBlank c = false := by
  have hzero : ∃ first ∈ digitZeros, first ≤ c.toNat ∧ c.toNat < first + 10 := by
    unfold digitValue? at h
    split at h
    · rename_i hc
      have hlow : '0'.toNat ≤ c.toNat := hc.1
      have hhigh : c.toNat ≤ '9'.toNat := hc.2
      exact ⟨'0'.toNat, by decide, hlow, Nat.lt_succ_of_le hhigh⟩
    · obtain ⟨first, hfirst, -⟩ := Option.map_eq_some_iff.mp h
      have hrange := List.find?_some hfirst
      rw [Bool.and_eq_true, decide_eq_true_eq, decide_eq_true_eq] at hrange
      exact ⟨first, List.mem_of_find?_eq_some hfirst, hrange⟩
  have apart : ∀ first ∈ digitZeros, ∀ range ∈ blanks,
      range.2 < first ∨ first + 10 ≤ range.1 := by decide
  obtain ⟨first, hfirst, hlow, hhigh⟩ := hzero
  rw [Bool.eq_false_iff]
  intro hblank
  obtain ⟨range, hrange, hlow', hhigh'⟩ := CodePoints.holds_iff.mp hblank
  have hapart := apart first hfirst range hrange
  omega

end Text

namespace IntegerLiteral

/-! ## The form of a literal -/

/-- The digits that a text spells: between two of them there may be one underscore. -/
inductive Spells : List Char → List Nat → Prop
  | last {c : Char} {d : Nat} (h : digitValue? c = some d) : Spells [c] [d]
  | next {c : Char} {d : Nat} {cs : List Char} {ds : List Nat} (h : digitValue? c = some d)
      (rest : Spells cs ds) : Spells (c :: cs) (d :: ds)
  | separated {c : Char} {d : Nat} {cs : List Char} {ds : List Nat}
      (h : digitValue? c = some d) (rest : Spells cs ds) : Spells (c :: '_' :: cs) (d :: ds)

/-- What may stand in front of the digits, and the factor that it stands for. -/
inductive Sign : List Char → Int → Prop
  | none : Sign [] 1
  | plus : Sign ['+'] 1
  | minus : Sign ['-'] (-1)

/-- A text is a literal within the digit limit, between characters of a class, and the
literal denotes an integer. -/
inductive Denotes (space : Char → Bool) : List Char → Int → Prop
  | intro {front sign body back : List Char} {factor : Int} {ds : List Nat}
      (hfront : ∀ c ∈ front, space c = true) (hsign : Sign sign factor)
      (hbody : Spells body ds) (hlimit : ds.length ≤ digitLimit)
      (hback : ∀ c ∈ back, space c = true) :
      Denotes space (front ++ (sign ++ body) ++ back) (factor * Decimal.ofDigits ds)

/-- Blanks of more kinds may stand around the same literals. -/
theorem Denotes.mono {space space' : Char → Bool} (h : ∀ c, space c = true → space' c = true)
    {cs : List Char} {n : Int} (hcs : Denotes space cs n) : Denotes space' cs n := by
  obtain ⟨hfront, hsign, hbody, hlimit, hback⟩ := hcs
  exact .intro (fun c hc => h c (hfront c hc)) hsign hbody hlimit fun c hc => h c (hback c hc)

/-- More of the class may stand around a literal. -/
theorem Denotes.surround {space : Char → Bool} {front cs back : List Char} {n : Int}
    (hfront : ∀ c ∈ front, space c = true) (h : Denotes space cs n)
    (hback : ∀ c ∈ back, space c = true) : Denotes space (front ++ cs ++ back) n := by
  cases h with
  | @intro front' sign body back' factor ds hfront' hsign hbody hlimit hback' =>
      have hsplit : front ++ (front' ++ (sign ++ body) ++ back') ++ back =
          (front ++ front') ++ (sign ++ body) ++ (back' ++ back) := by
        simp only [List.append_assoc]
      rw [hsplit]
      refine .intro ?_ hsign hbody hlimit ?_
      · intro c hc
        exact (List.mem_append.mp hc).elim (hfront c) (hfront' c)
      · intro c hc
        exact (List.mem_append.mp hc).elim (hback' c) (hback c)

theorem Spells.lt_ten {cs : List Char} {ds : List Nat} (h : Spells cs ds) : ∀ d ∈ ds, d < 10 := by
  induction h with
  | last h => exact List.forall_mem_singleton.mpr (Text.digitValue?_lt h)
  | next h _ ih => exact List.forall_mem_cons.mpr ⟨Text.digitValue?_lt h, ih⟩
  | separated h _ ih => exact List.forall_mem_cons.mpr ⟨Text.digitValue?_lt h, ih⟩

theorem Denotes.writable {space : Char → Bool} {cs : List Char} {n : Int}
    (h : Denotes space cs n) : Writable n := by
  cases h with
  | intro _ hsign hbody hlimit _ =>
      have hdigits := writable_ofDigits hbody.lt_ten hlimit
      cases hsign with
      | none => rwa [Int.one_mul]
      | plus => rwa [Int.one_mul]
      | minus => rwa [Int.neg_one_mul, writable_neg_iff]

/-! ## Reading -/

theorem digitValue?_underscore : digitValue? '_' = none := by decide

theorem Spells.exists_head {cs : List Char} {ds : List Nat} (h : Spells cs ds) :
    ∃ c rest d, cs = c :: rest ∧ digitValue? c = some d := by
  cases h with
  | last h => exact ⟨_, _, _, rfl, h⟩
  | next h _ => exact ⟨_, _, _, rfl, h⟩
  | separated h _ => exact ⟨_, _, _, rfl, h⟩

theorem Spells.isBlank_of_mem {cs : List Char} {ds : List Nat} (h : Spells cs ds) :
    ∀ c ∈ cs, isBlank c = false := by
  induction h with
  | last h =>
      intro c hc
      rw [List.mem_singleton.mp hc]
      exact Text.isBlank_of_digitValue? h
  | next h _ ih => exact List.forall_mem_cons.mpr ⟨Text.isBlank_of_digitValue? h, ih⟩
  | separated h _ ih =>
      refine List.forall_mem_cons.mpr ⟨Text.isBlank_of_digitValue? h, ?_⟩
      exact List.forall_mem_cons.mpr ⟨by decide, ih⟩

/-- The digits are read that a text spells, and nothing else is read as digits. -/
theorem digits?_eq_some_iff {cs : List Char} {ds : List Nat} :
    digits? cs = some ds ↔ Spells cs ds := by
  constructor
  · intro h
    induction cs using digits?.induct generalizing ds with
    | case1 => cases h
    | case2 c =>
        obtain ⟨d, hd, rfl⟩ := Option.map_eq_some_iff.mp h
        exact .last hd
    | case3 c rest ih =>
        rw [digits?] at h
        obtain ⟨d, hd, h⟩ := Option.bind_eq_some_iff.mp h
        obtain ⟨ds', hds, h⟩ := Option.bind_eq_some_iff.mp h
        cases h
        exact .separated hd (ih hds)
    | case4 c rest hne hunderscore ih =>
        rw [digits?] at h
        · obtain ⟨d, hd, h⟩ := Option.bind_eq_some_iff.mp h
          obtain ⟨ds', hds, h⟩ := Option.bind_eq_some_iff.mp h
          cases h
          exact .next hd (ih hds)
        · exact hne
        · exact hunderscore
  · intro h
    induction h with
    | last h => simp [digits?, h]
    | next h rest ih =>
        obtain ⟨c', cs', d', rfl, hhead⟩ := rest.exists_head
        rw [digits?]
        · simp [h, ih]
        · simp
        · intro after heq
          rw [(List.cons.inj heq).1, digitValue?_underscore] at hhead
          cases hhead
    | separated h rest ih => simp [digits?, h, ih]

theorem natural?_eq_some_iff {cs : List Char} {n : Nat} :
    natural? cs = some n ↔
      ∃ ds, Spells cs ds ∧ ds.length ≤ digitLimit ∧ n = Decimal.ofDigits ds := by
  constructor
  · intro h
    obtain ⟨ds, hds, h⟩ := Option.bind_eq_some_iff.mp h
    by_cases hlimit : ds.length ≤ digitLimit
    · rw [if_pos hlimit] at h
      exact ⟨ds, digits?_eq_some_iff.mp hds, hlimit, (Option.some.inj h).symm⟩
    · rw [if_neg hlimit] at h
      cases h
  · rintro ⟨ds, hds, hlimit, rfl⟩
    exact Option.bind_eq_some_iff.mpr ⟨ds, digits?_eq_some_iff.mpr hds, if_pos hlimit⟩

/-- Without blanks around it, a text is read as the literal that it is. -/
theorem signed?_eq_some_iff {cs : List Char} {n : Int} :
    signed? cs = some n ↔ ∃ sign body factor ds, cs = sign ++ body ∧ Sign sign factor ∧
      Spells body ds ∧ ds.length ≤ digitLimit ∧ n = factor * Decimal.ofDigits ds := by
  constructor
  · intro h
    unfold signed? at h
    split at h
    · rename_i body
      obtain ⟨m, hm, rfl⟩ := Option.map_eq_some_iff.mp h
      obtain ⟨ds, hds, hlimit, rfl⟩ := natural?_eq_some_iff.mp hm
      exact ⟨['+'], body, 1, ds, rfl, .plus, hds, hlimit, (Int.one_mul _).symm⟩
    · rename_i body
      obtain ⟨k, hk, rfl⟩ := Option.map_eq_some_iff.mp h
      obtain ⟨m, hm, hkm⟩ := Option.bind_eq_some_iff.mp hk
      cases hkm
      obtain ⟨ds, hds, hlimit, rfl⟩ := natural?_eq_some_iff.mp hm
      exact ⟨['-'], body, -1, ds, rfl, .minus, hds, hlimit, (Int.neg_one_mul _).symm⟩
    · obtain ⟨m, hm, rfl⟩ := Option.map_eq_some_iff.mp h
      obtain ⟨ds, hds, hlimit, rfl⟩ := natural?_eq_some_iff.mp hm
      exact ⟨[], cs, 1, ds, rfl, .none, hds, hlimit, (Int.one_mul _).symm⟩
  · rintro ⟨sign, body, factor, ds, rfl, hsign, hbody, hlimit, rfl⟩
    have hread : natural? body = some (Decimal.ofDigits ds) :=
      natural?_eq_some_iff.mpr ⟨ds, hbody, hlimit, rfl⟩
    cases hsign with
    | none =>
        obtain ⟨c, rest, d, rfl, hhead⟩ := hbody.exists_head
        have hplus : c ≠ '+' := by
          rintro rfl
          cases hhead
        have hminus : c ≠ '-' := by
          rintro rfl
          cases hhead
        rw [List.nil_append, signed?_of_ne hplus hminus, hread, Int.one_mul]
        rfl
    | plus =>
        rw [List.singleton_append, signed?, hread, Int.one_mul]
        rfl
    | minus =>
        rw [List.singleton_append, signed?, hread, Int.neg_one_mul]
        rfl

theorem isBlank_of_mem_signed {sign body : List Char} {factor : Int} {ds : List Nat}
    (hsign : Sign sign factor) (hbody : Spells body ds) :
    ∀ c ∈ sign ++ body, isBlank c = false := by
  intro c hc
  rcases List.mem_append.mp hc with hc | hc
  · cases hsign with
    | none => cases hc
    | plus =>
        rw [List.mem_singleton.mp hc]
        decide
    | minus =>
        rw [List.mem_singleton.mp hc]
        decide
  · exact hbody.isBlank_of_mem c hc

/-- A class of blanks that is trimmed, with its literals. -/
theorem signed?_trimBy_eq_some_iff {space : Char → Bool}
    (hspace : ∀ c, space c = true → isBlank c = true) {cs : List Char} {n : Int} :
    signed? (trimBy space cs) = some n ↔ Denotes space cs n := by
  constructor
  · intro h
    obtain ⟨sign, body, factor, ds, hcs, hsign, hbody, hlimit, rfl⟩ := signed?_eq_some_iff.mp h
    obtain ⟨front, back, heq, hfront, hback⟩ := Text.exists_eq_trimBy space cs
    rw [heq, hcs]
    exact .intro hfront hsign hbody hlimit hback
  · intro h
    cases h with
    | intro hfront hsign hbody hlimit hback =>
        rw [Text.trimBy_append hfront ?_ hback]
        · exact signed?_eq_some_iff.mpr ⟨_, _, _, _, rfl, hsign, hbody, hlimit, rfl⟩
        · intro c hc
          have hblank := isBlank_of_mem_signed hsign hbody c hc
          rw [Bool.eq_false_iff]
          intro hc'
          rw [hspace c hc'] at hblank
          cases hblank

/-- A text is read as an integer exactly if it is a literal that denotes the integer,
between white space. -/
theorem read?_eq_some_iff {cs : List Char} {n : Int} :
    read? cs = some n ↔ Denotes whiteSpace.holds cs n :=
  signed?_trimBy_eq_some_iff fun _ => Text.isBlank_of_whiteSpace

/-- Once blanks were trimmed, the literals are read that stand between blanks. -/
theorem read?_trim_eq_some_iff {cs : List Char} {n : Int} :
    read? (trim cs) = some n ↔ Denotes isBlank cs n := by
  constructor
  · intro h
    obtain ⟨front, back, heq, hfront, hback⟩ := Text.exists_eq_trimBy isBlank cs
    rw [heq]
    refine Denotes.surround hfront ?_ hback
    exact (read?_eq_some_iff.mp h).mono fun _ => Text.isBlank_of_whiteSpace
  · intro h
    cases h with
    | @intro front sign body back factor ds hfront hsign hbody hlimit hback =>
        have hblank := isBlank_of_mem_signed hsign hbody
        rw [trim, Text.trimBy_append hfront hblank hback]
        have hbare : Denotes whiteSpace.holds ([] ++ (sign ++ body) ++ [])
            (factor * Decimal.ofDigits ds) :=
          .intro (List.forall_mem_nil _) hsign hbody hlimit (List.forall_mem_nil _)
        rw [List.nil_append, List.append_nil] at hbare
        exact read?_eq_some_iff.mpr hbare

end IntegerLiteral

end NetworkTopology
