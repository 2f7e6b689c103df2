import Mathlib.Data.Finset.Card
import Mathlib.Data.Nat.Find
import Mathlib.Order.Bounds.Basic
import NetworkTopology.Proofs.IdGenerator.Step

/-!
# The least free id

Of more candidates than ids are taken, one is free, because different integers make
different ids.  So a search among finitely many taken ids ends, and it ends at the
least free candidate.  A generator that is new, or was reset, starts past every id of
its stem and finds its first candidate free.
-/

namespace NetworkTopology

namespace IdGenerator

variable {stem : String} {g : IdGenerator}

/-! ## Searches through taken ids -/

/-- While candidates are taken, the counter goes up by one for each of them. -/
theorem search_of_all_taken {taken : String → Except Fault Bool} {counter : Int} {n : Nat}
    (writable : ∀ k < n, IntegerLiteral.Writable (counter + (k : Nat)))
    (used : ∀ k < n, taken (stem ++ Decimal.text (counter + (k : Nat))) = .ok true) :
    search stem taken counter = search stem taken (counter + n) := by
  induction n with
  | zero => rw [Int.natCast_zero, Int.add_zero]
  | succ n ih =>
      have hfront := ih (fun k hk => writable k (Nat.lt_succ_of_lt hk))
        fun k hk => used k (Nat.lt_succ_of_lt hk)
      have hnext : counter + (n : Int) + 1 = counter + ((n + 1 : Nat) : Int) := by omega
      rw [hfront, search_of_taken (writable n (Nat.lt_succ_self n)) (used n (Nat.lt_succ_self n)),
        hnext]

/-- Among finitely many taken ids there are not those of one candidate more. -/
theorem exists_free (stem : String) (used : Finset String) (counter : Int) :
    ∃ n ≤ used.card, stem ++ Decimal.text (counter + (n : Nat)) ∉ used := by
  by_contra hnone
  push Not at hnone
  have hmaps : ∀ n ∈ Finset.range (used.card + 1),
      stem ++ Decimal.text (counter + (n : Nat)) ∈ used := by
    intro n hn
    exact hnone n (Nat.lt_succ_iff.mp (Finset.mem_range.mp hn))
  have hmore : used.card < (Finset.range (used.card + 1)).card := by
    rw [Finset.card_range]
    exact Nat.lt_succ_self _
  obtain ⟨m, -, n, -, hne, hsame⟩ := Finset.exists_ne_map_eq_of_card_lt_of_maps_to hmore hmaps
  have hcandidates := Decimal.append_text_inj.mp hsame
  exact hne (by omega)

/-- The least free candidate comes after at most as many as ids are taken. -/
theorem exists_least_free (stem : String) (used : Finset String) (counter : Int) :
    ∃ n ≤ used.card, stem ++ Decimal.text (counter + (n : Nat)) ∉ used ∧
      ∀ k < n, stem ++ Decimal.text (counter + (k : Nat)) ∈ used := by
  classical
  obtain ⟨bound, hbound, hfree⟩ := exists_free stem used counter
  have hexists : ∃ n : Nat, stem ++ Decimal.text (counter + (n : Nat)) ∉ used := ⟨bound, hfree⟩
  refine ⟨Nat.find hexists, (Nat.find_min' hexists hfree).trans hbound, Nat.find_spec hexists, ?_⟩
  intro k hk
  exact not_not.mp (Nat.find_min hexists hk)

/-- Where the taken ids are finitely many and the candidates can be written, the next
id is that of the least integer from the counter on whose id is free.  The counter goes
up once for each taken candidate before it, which is at most as often as there are taken
ids, and once more for the id itself.  No other candidate is tried: whatever would be
answered for it, the outcome is the same. -/
theorem next_takes_least_free (hstarted : g.initialized = true) (used : Finset String)
    (writable : ∀ m, g.counter ≤ m → m ≤ g.counter + used.card → IntegerLiteral.Writable m)
    (content : Except Fault (List String)) :
    ∃ n : Nat, n ≤ used.card ∧
      IsLeast {m : Int | g.counter ≤ m ∧ g.stem ++ Decimal.text m ∉ used} (g.counter + n) ∧
      (g.next content fun id => .ok (decide (id ∈ used))) =
        ({ g with counter := g.counter + n + 1 },
          .ok (g.stem ++ Decimal.text (g.counter + n))) ∧
      ∀ taken : String → Except Fault Bool,
        (∀ k ≤ n, taken (g.stem ++ Decimal.text (g.counter + (k : Nat))) =
          .ok (decide (g.stem ++ Decimal.text (g.counter + (k : Nat)) ∈ used))) →
        g.next content taken = g.next content fun id => .ok (decide (id ∈ used)) := by
  obtain ⟨n, hn, hfree, hused⟩ := exists_least_free g.stem used g.counter
  have hwritable : ∀ k ≤ n, IntegerLiteral.Writable (g.counter + (k : Nat)) := by
    intro k hk
    exact writable _ (by omega) (by omega)
  -- Only the candidates up to the free one have a say in the outcome.
  have hnext : ∀ taken : String → Except Fault Bool,
      (∀ k ≤ n, taken (g.stem ++ Decimal.text (g.counter + (k : Nat))) =
        .ok (decide (g.stem ++ Decimal.text (g.counter + (k : Nat)) ∈ used))) →
      g.next content taken = ({ g with counter := g.counter + n + 1 },
        .ok (g.stem ++ Decimal.text (g.counter + n))) := by
    intro taken htaken
    have hbefore : ∀ k < n, taken (g.stem ++ Decimal.text (g.counter + (k : Nat))) = .ok true := by
      intro k hk
      rw [htaken k (Nat.le_of_lt hk), decide_eq_true (hused k hk)]
    have hat : taken (g.stem ++ Decimal.text (g.counter + n)) = .ok false := by
      rw [htaken n (Nat.le_refl n), decide_eq_false hfree]
    rw [next_of_prime (prime_of_initialized hstarted),
      search_of_all_taken (fun k hk => hwritable k (Nat.le_of_lt hk)) hbefore,
      search_of_free (hwritable n (Nat.le_refl n)) hat]
  have hmembership := hnext (fun id => .ok (decide (id ∈ used))) fun _ _ => rfl
  refine ⟨n, hn, ⟨⟨by omega, hfree⟩, ?_⟩, hmembership, ?_⟩
  · rintro m ⟨hle, hm⟩
    by_contra hlt
    have hk : g.counter + ((m - g.counter).toNat : Int) = m := by omega
    have hmem := hused (m - g.counter).toNat (by omega)
    rw [hk] at hmem
    exact hm hmem
  · intro taken htaken
    rw [hnext taken htaken, hmembership]

/-- From a negative counter on, two taken ids are passed over, and one of another stem
is not met. -/
theorem least_free_above_minus_one :
    let g : IdGenerator := { stem := "v", counter := -1, initialized := true }
    let used : Finset String := {"v-1", "v0", "w1"}
    (g.next (.error (.scripted "unlisted")) fun id => .ok (decide (id ∈ used))) =
      ({ g with counter := 2 }, .ok "v1") := by
  intro g used
  have hcard : used.card = 3 := by decide
  have hminus : "v" ++ Decimal.text (-1) = "v-1" := by decide +kernel
  have hzero : "v" ++ Decimal.text 0 = "v0" := by decide +kernel
  have hone : "v" ++ Decimal.text 1 = "v1" := by decide +kernel
  obtain ⟨n, -, ⟨⟨-, hfree⟩, hleast⟩, hnext, -⟩ := next_takes_least_free (g := g) rfl used (by
    intro m hle hge
    rw [hcard] at hge
    have hcounter : g.counter = -1 := rfl
    exact IntegerLiteral.writable_of_lt_ten (by omega)) (.error (.scripted "unlisted"))
  have hcounter : g.counter = -1 := rfl
  have hbound : g.counter + n ≤ 1 := by
    refine hleast ⟨by decide, ?_⟩
    rw [hone]
    decide
  rw [hcounter] at hfree hbound hnext
  have hn : n = 2 := by
    have hne : ∀ m : Int, "v" ++ Decimal.text m ∈ used → -1 + (n : Int) ≠ m := by
      rintro m hm rfl
      exact hfree hm
    have hfirst := hne (-1) (by rw [hminus]; decide)
    have hsecond := hne 0 (by rw [hzero]; decide)
    omega
  rw [hnext, hn]
  exact Prod.ext rfl (congrArg Except.ok hone)

/-! ## The first id -/

/-- Where there is an id of the stem, there is a greatest integer of such ids. -/
theorem exists_start_eq {ids : List String} (h : ∃ id ∈ ids, hasStem stem id = true) :
    ∃ greatest, ((ids.filter (hasStem stem)).map (suffix stem)).max? = some greatest ∧
      start stem ids = greatest + 1 := by
  obtain ⟨id, hid, hstem⟩ := h
  have hmem : suffix stem id ∈ (ids.filter (hasStem stem)).map (suffix stem) :=
    List.mem_map_of_mem (List.mem_filter.mpr ⟨hid, hstem⟩)
  cases hmax : ((ids.filter (hasStem stem)).map (suffix stem)).max? with
  | none =>
      rw [List.max?_eq_none_iff.mp hmax] at hmem
      cases hmem
  | some greatest => exact ⟨greatest, rfl, by rw [start, hmax]⟩

theorem suffix_lt_start {ids : List String} {id : String} (hid : id ∈ ids)
    (hstem : hasStem stem id = true) : suffix stem id < start stem ids := by
  obtain ⟨greatest, hmax, hstart⟩ := exists_start_eq ⟨id, hid, hstem⟩
  have hle := (List.max?_le_iff hmax).mp (Int.le_refl greatest) _
    (List.mem_map_of_mem (List.mem_filter.mpr ⟨hid, hstem⟩))
  omega

theorem start_of_no_stem {ids : List String} (h : ∀ id ∈ ids, hasStem stem id = false) :
    start stem ids = 0 := by
  have hnone : ids.filter (hasStem stem) = [] := by
    rw [List.filter_eq_nil_iff]
    intro id hid
    rw [h id hid]
    exact Bool.false_ne_true
  rw [start, hnone]
  rfl

/-- The counter starts one past the greatest integer of the ids of the stem. -/
theorem isGreatest_start {ids : List String} (h : ∃ id ∈ ids, hasStem stem id = true) :
    IsGreatest {k | ∃ id ∈ ids, hasStem stem id = true ∧ suffix stem id = k}
      (start stem ids - 1) := by
  obtain ⟨greatest, hmax, hstart⟩ := exists_start_eq h
  constructor
  · obtain ⟨id, hid, hsuffix⟩ := List.mem_map.mp (List.max?_mem hmax)
    obtain ⟨hid, hstem⟩ := List.mem_filter.mp hid
    exact ⟨id, hid, hstem, by omega⟩
  · rintro k ⟨id, hid, hstem, rfl⟩
    have hlt := suffix_lt_start hid hstem
    omega

theorem hasStem_append (stem rest : String) : hasStem stem (stem ++ rest) = true := by
  rw [hasStem, String.toList_append, List.isPrefixOf_iff_prefix]
  exact List.prefix_append _ _

/-- The id of the starting counter is none of those in use: it would be read as that
counter. -/
theorem start_not_mem {ids : List String} (h : IntegerLiteral.Writable (start stem ids)) :
    stem ++ Decimal.text (start stem ids) ∉ ids := by
  intro hmem
  have hlt := suffix_lt_start hmem (hasStem_append stem _)
  rw [suffix_append_text h] at hlt
  exact Int.lt_irrefl _ hlt

/-- A generator that was just made, or reset, starts past every id of its stem, however
these are spelled.  Its first id is the first candidate, and no other is tried: the
outcome depends on the answer for this one alone. -/
theorem first_id_past_all (ids : List String)
    (hnew : make (some stem) = .ok g ∨ ∃ old : IdGenerator, old.stem = stem ∧ g = old.reset) :
    ((∀ id ∈ ids, hasStem stem id = false) → start stem ids = 0) ∧
    ((∃ id ∈ ids, hasStem stem id = true) →
      IsGreatest {k | ∃ id ∈ ids, hasStem stem id = true ∧ suffix stem id = k}
        (start stem ids - 1)) ∧
    (∀ id ∈ ids, hasStem stem id = true → suffix stem id < start stem ids) ∧
    (IntegerLiteral.Writable (start stem ids) →
      let first := stem ++ Decimal.text (start stem ids)
      let used : IdGenerator := { stem, counter := start stem ids + 1, initialized := true }
      (g.next (.ok ids) fun id => .ok (decide (id ∈ ids))) = (used, .ok first) ∧
      ∀ taken : String → Except Fault Bool,
        (taken first = .ok false → g.next (.ok ids) taken = (used, .ok first)) ∧
        ∀ fault, taken first = .error fault → g.next (.ok ids) taken = (used, .error fault)) := by
  have hg : g = { stem } := by
    rcases hnew with hmade | ⟨old, rfl, rfl⟩
    · exact (Except.ok.inj hmade).symm
    · rfl
  refine ⟨start_of_no_stem, isGreatest_start, fun id => suffix_lt_start, ?_⟩
  intro hwritable first used
  have hprime : g.prime (.ok ids) =
      .ok { stem, counter := start stem ids, initialized := true } := by
    rw [hg]
    exact prime_of_content rfl
  have hfree : ∀ taken : String → Except Fault Bool, taken first = .ok false →
      g.next (.ok ids) taken = (used, .ok first) := by
    intro taken htaken
    rw [next_of_prime hprime, search_of_free hwritable htaken]
  refine ⟨hfree _ (congrArg Except.ok (decide_eq_false (start_not_mem hwritable))), ?_⟩
  intro taken
  refine ⟨hfree taken, ?_⟩
  intro fault hfault
  rw [next_of_prime hprime, search_of_error hwritable hfault]

/-- Ids with a sign, blanks, an underscore, foreign digits or no digits at all are read
as what they say, or as zero, and the first id is past them. -/
theorem first_id_past_spellings :
    let ids := ["v-7", "v 0_8 ", "v٣", "vx", "w12"]
    let g : IdGenerator := { stem := "v", counter := 40, initialized := true }
    (g.reset.next (.ok ids) fun id => .ok (decide (id ∈ ids))) =
      ({ stem := "v", counter := 10, initialized := true }, .ok "v9") := by
  intro ids g
  have hstart : start "v" ids = 9 := by decide +kernel
  have hnine : "v" ++ Decimal.text 9 = "v9" := by decide +kernel
  have hwritable : IntegerLiteral.Writable 9 := IntegerLiteral.writable_of_lt_ten (by decide)
  have hreset : make (some "v") = .ok g.reset ∨
      ∃ old : IdGenerator, old.stem = "v" ∧ g.reset = old.reset := .inr ⟨g, rfl, rfl⟩
  obtain ⟨-, -, -, hfirst⟩ := first_id_past_all ids hreset
  have hnext := (hfirst (hstart ▸ hwritable)).1
  rw [hstart, hnine] at hnext
  exact hnext

end IdGenerator

end NetworkTopology
