import NetworkTopology.IdGenerator
import NetworkTopology.Proofs.Number.ReadBack

/-!
# One call of an id generator

What a search for a free candidate comes to, what a single `next` does to the
generator, and how the counter of an id is read back.
-/

namespace NetworkTopology

namespace IdGenerator

variable {stem : String} {taken : String → Except Fault Bool} {g primed : IdGenerator}
  {content : Except Fault (List String)}

/-! ## The search -/

/-- The outcome of a search that tried this candidate last. -/
inductive Stops (stem : String) (taken : String → Except Fault Bool) (last : Int) :
    Except Fault String → Prop
  /-- The candidate is free. -/
  | free (writable : IntegerLiteral.Writable last)
      (free : taken (stem ++ Decimal.text last) = .ok false) :
      Stops stem taken last (.ok (stem ++ Decimal.text last))
  /-- Whether the candidate is free cannot be told. -/
  | failing (fault : Fault) (writable : IntegerLiteral.Writable last)
      (fails : taken (stem ++ Decimal.text last) = .error fault) :
      Stops stem taken last (.error fault)
  /-- The candidate has too many digits. -/
  | unwritable (h : ¬ IntegerLiteral.Writable last) :
      Stops stem taken last (.error .integerTooLong)

theorem search_of_error {counter : Int} {fault : Fault}
    (writable : IntegerLiteral.Writable counter)
    (fails : taken (stem ++ Decimal.text counter) = .error fault) :
    search stem taken counter = (counter, .error fault) := by
  unfold search
  rw [dif_pos writable, fails]

/-- A free first candidate ends the search. -/
theorem search_of_free {counter : Int} (writable : IntegerLiteral.Writable counter)
    (free : taken (stem ++ Decimal.text counter) = .ok false) :
    search stem taken counter = (counter, .ok (stem ++ Decimal.text counter)) := by
  unfold search
  rw [dif_pos writable, free]

theorem search_of_taken {counter : Int} (writable : IntegerLiteral.Writable counter)
    (used : taken (stem ++ Decimal.text counter) = .ok true) :
    search stem taken counter = search stem taken (counter + 1) := by
  rw [search.eq_def stem taken counter, dif_pos writable, used]

theorem search_of_unwritable {counter : Int} (h : ¬ IntegerLiteral.Writable counter) :
    search stem taken counter = (counter, .error .integerTooLong) := by
  unfold search
  rw [dif_neg h]

/-- A search stops at a candidate from its start on, for one of three reasons,
and all candidates before that one are taken. -/
theorem search_spec (stem : String) (taken : String → Except Fault Bool) (counter : Int) :
    counter ≤ (search stem taken counter).1 ∧
      Stops stem taken (search stem taken counter).1 (search stem taken counter).2 ∧
      ∀ k, counter ≤ k → k < (search stem taken counter).1 →
        taken (stem ++ Decimal.text k) = .ok true := by
  -- A search that stops at its start has no candidates before that one.
  have atOnce : ∀ {c : Int} {result : Except Fault String},
      search stem taken c = (c, result) → Stops stem taken c result →
      c ≤ (search stem taken c).1 ∧
        Stops stem taken (search stem taken c).1 (search stem taken c).2 ∧
        ∀ k, c ≤ k → k < (search stem taken c).1 →
          taken (stem ++ Decimal.text k) = .ok true := by
    intro c result heq hstops
    rw [heq]
    refine ⟨Int.le_refl _, hstops, ?_⟩
    intro k hle hlt
    exact absurd hlt (Int.not_lt.mpr hle)
  induction counter using search.induct stem taken with
  | case1 counter writable fault fails =>
      exact atOnce (search_of_error writable fails) (.failing fault writable fails)
  | case2 counter writable free =>
      exact atOnce (search_of_free writable free) (.free writable free)
  | case3 counter writable used ih =>
      rw [search_of_taken writable used]
      obtain ⟨hle, hstops, hbefore⟩ := ih
      refine ⟨by omega, hstops, ?_⟩
      intro k hk hlt
      rcases Int.lt_or_eq_of_le hk with hlater | rfl
      · exact hbefore k (by omega) hlt
      · exact used
  | case4 counter unwritable =>
      exact atOnce (search_of_unwritable unwritable) (.unwritable unwritable)

theorem le_search (stem : String) (taken : String → Except Fault Bool) (counter : Int) :
    counter ≤ (search stem taken counter).1 :=
  (search_spec stem taken counter).1

theorem search_stops (stem : String) (taken : String → Except Fault Bool) (counter : Int) :
    Stops stem taken (search stem taken counter).1 (search stem taken counter).2 :=
  (search_spec stem taken counter).2.1

/-! ## Priming -/

theorem prime_of_initialized (h : g.initialized = true) : g.prime content = .ok g := by
  rw [prime, if_pos h]

theorem prime_of_content {ids : List String} (h : g.initialized = false) :
    g.prime (.ok ids) = .ok { g with counter := start g.stem ids, initialized := true } := by
  rw [prime, if_neg (by simp [h])]
  rfl

theorem prime_initialized (h : g.prime content = .ok primed) : primed.initialized = true := by
  cases hinit : g.initialized with
  | true =>
      rw [prime_of_initialized hinit] at h
      cases h
      exact hinit
  | false =>
      cases content with
      | error fault => simp [prime, hinit, bind, Except.bind] at h
      | ok ids =>
          rw [prime_of_content hinit] at h
          cases h
          rfl

theorem prime_stem (h : g.prime content = .ok primed) : primed.stem = g.stem := by
  cases hinit : g.initialized with
  | true =>
      rw [prime_of_initialized hinit] at h
      cases h
      rfl
  | false =>
      cases content with
      | error fault => simp [prime, hinit, bind, Except.bind] at h
      | ok ids =>
          rw [prime_of_content hinit] at h
          cases h
          rfl

@[simp] theorem start_nil (stem : String) : start stem [] = 0 := rfl

/-! ## The next id -/

theorem next_of_prime_error {fault : Fault} (h : g.prime content = .error fault) :
    g.next content taken = (g, .error fault) := by
  rw [next, h]

/-- A primed generator searches from its counter on, and moves past the last
candidate whatever comes of it. -/
theorem next_of_prime (h : g.prime content = .ok primed) :
    g.next content taken =
      ({ primed with counter := (search primed.stem taken primed.counter).1 + 1 },
        (search primed.stem taken primed.counter).2) := by
  rw [next, h]

theorem next_stem : (g.next content taken).1.stem = g.stem := by
  cases h : g.prime content with
  | error fault => rw [next_of_prime_error h]
  | ok primed =>
      have hstem := prime_stem h
      rw [next_of_prime h]
      exact hstem

/-- An id that is returned was free, and is the stem with an integer that the
counter had reached and has now passed. -/
theorem next_ok {id : String} (h : (g.next content taken).2 = .ok id) :
    ∃ m, IntegerLiteral.Writable m ∧ id = g.stem ++ Decimal.text m ∧ taken id = .ok false ∧
      (g.initialized = true → g.counter ≤ m) ∧
      (g.next content taken).1 = { g with counter := m + 1, initialized := true } := by
  cases hprime : g.prime content with
  | error fault =>
      rw [next_of_prime_error hprime] at h
      cases h
  | ok primed =>
      have hstem := prime_stem hprime
      have hinit := prime_initialized hprime
      have hle := le_search primed.stem taken primed.counter
      have hstops := search_stops primed.stem taken primed.counter
      rw [next_of_prime hprime] at h ⊢
      simp only at h
      rw [h] at hstops
      generalize (search primed.stem taken primed.counter).1 = last at hstops hle ⊢
      cases hstops with
      | free writable free =>
          refine ⟨last, writable, by rw [hstem], free, ?_, ?_⟩
          · intro hstarted
            rw [prime_of_initialized hstarted] at hprime
            cases hprime
            exact hle
          · cases primed
            cases hstem
            cases hinit
            rfl

/-! ## The integer of an id -/

/-- The integer that was appended to the stem is the one read from the id. -/
theorem suffix_append_text {m : Int} (h : IntegerLiteral.Writable m) :
    suffix stem (stem ++ Decimal.text m) = m := by
  have hdrop : (stem ++ Decimal.text m).toList.drop stem.length = Decimal.integer m := by
    rw [Decimal.toList_append_text, ← String.length_toList, List.drop_left]
  have htrim : Text.trim (Decimal.integer m) = Decimal.integer m :=
    Text.trimBy_of_forall fun c hc => Decimal.isBlank_of_mem_integer hc
  rw [suffix, hdrop, htrim, IntegerLiteral.read?_integer h, Option.getD_some]

end IdGenerator

end NetworkTopology
