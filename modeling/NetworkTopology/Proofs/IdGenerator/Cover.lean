import NetworkTopology.Proofs.IdGenerator.Step

/-!
# Ids below the counter

As long as every id in use bears the stem and a number below the counter, the
counter itself is free: ids are then given out in a row, and a request fails only
where the number is too long to be written.
-/

namespace NetworkTopology

namespace IdGenerator

/-- The number to try first, if nothing but counted ids is in use. -/
def upcoming (g : IdGenerator) : Int :=
  if g.initialized then g.counter else 0

/-- The generator after a number of ids in a row. -/
def advance (g : IdGenerator) : Nat → IdGenerator
  | 0 => g
  | n + 1 => { g with counter := g.upcoming + (n + 1 : Nat), initialized := true }

@[simp] theorem advance_stem (g : IdGenerator) (n : Nat) : (g.advance n).stem = g.stem := by
  cases n <;> rfl

@[simp] theorem upcoming_advance (g : IdGenerator) (n : Nat) :
    (g.advance n).upcoming = g.upcoming + n := by
  cases n with
  | zero => exact (Int.add_zero _).symm
  | succ n => rfl

theorem advance_one_advance (g : IdGenerator) (n : Nat) :
    (g.advance 1).advance n = g.advance (n + 1) := by
  cases n with
  | zero => rfl
  | succ n =>
      have hcounter : g.upcoming + (1 : Nat) + (n + 1 : Nat) =
          g.upcoming + (n + 1 + 1 : Nat) := by omega
      exact congrArg
        (fun counter => { g with counter := counter, initialized := true }) hcounter

/-- Ids that are numbered below the counter, if there are any at all. -/
structure Covers (g : IdGenerator) (ids : List String) : Prop where
  below : ∀ id ∈ ids, ∃ m : Int, m < g.counter ∧ id = g.stem ++ Decimal.text m
  started : ids ≠ [] → g.initialized = true

namespace Covers

variable {g : IdGenerator} {ids : List String}

theorem nil (g : IdGenerator) : g.Covers [] :=
  ⟨fun _ h => absurd h List.not_mem_nil, fun h => absurd rfl h⟩

theorem upcoming_eq (h : g.Covers ids) (hids : ids ≠ []) : g.upcoming = g.counter :=
  if_pos (h.started hids)

/-- No number from the upcoming one on is in use. -/
theorem not_mem (h : g.Covers ids) {m : Int} (hm : g.upcoming ≤ m) :
    g.stem ++ Decimal.text m ∉ ids := by
  intro hmem
  obtain ⟨n, hn, heq⟩ := h.below _ hmem
  have hupcoming := h.upcoming_eq (List.ne_nil_of_mem hmem)
  have hmn := Decimal.append_text_inj.mp heq
  omega

theorem prime (h : g.Covers ids) :
    g.prime (.ok ids) = .ok { g with counter := g.upcoming, initialized := true } := by
  cases hinit : g.initialized with
  | true =>
      rw [prime_of_initialized hinit, upcoming, if_pos hinit, ← hinit]
  | false =>
      have hids : ids = [] := by
        by_cases hids : ids = []
        · exact hids
        · rw [h.started hids] at hinit
          cases hinit
      rw [prime_of_content hinit, hids, start_nil, upcoming, if_neg (by simp [hinit])]

/-- The upcoming number is given out, and the id that it makes is covered. -/
theorem next (h : g.Covers ids) (writable : IntegerLiteral.Writable g.upcoming)
    {taken : String → Except Fault Bool}
    (free : ∀ id, id ∉ ids → taken id = .ok false) :
    g.next (.ok ids) taken = (g.advance 1, .ok (g.stem ++ Decimal.text g.upcoming)) := by
  have hfree := free _ (h.not_mem (Int.le_refl g.upcoming))
  rw [next_of_prime h.prime, search_of_free writable hfree]
  rfl

theorem next_of_unwritable (h : g.Covers ids) (unwritable : ¬ IntegerLiteral.Writable g.upcoming)
    (taken : String → Except Fault Bool) :
    g.next (.ok ids) taken = (g.advance 1, .error .integerTooLong) := by
  rw [next_of_prime h.prime, search_of_unwritable unwritable]
  rfl

/-- What is covered stays covered as numbers are given out. -/
theorem advance (h : g.Covers ids) (n : Nat) : (g.advance n).Covers ids := by
  cases n with
  | zero => exact h
  | succ n =>
      refine ⟨?_, fun _ => rfl⟩
      intro id hid
      obtain ⟨m, hm, heq⟩ := h.below id hid
      have hupcoming := h.upcoming_eq (List.ne_nil_of_mem hid)
      have hcounter : (g.advance (n + 1)).counter = g.upcoming + (n + 1 : Nat) := rfl
      exact ⟨m, by omega, heq⟩

theorem union (h : g.Covers ids) {others : List String} (h' : g.Covers others) :
    g.Covers (ids ++ others) := by
  refine ⟨?_, ?_⟩
  · intro id hid
    rcases List.mem_append.mp hid with hid | hid
    · exact h.below id hid
    · exact h'.below id hid
  · intro hne
    by_cases hids : ids = []
    · rw [hids] at hne
      exact h'.started hne
    · exact h.started hids

theorem upcoming_covered (g : IdGenerator) :
    (g.advance 1).Covers [g.stem ++ Decimal.text g.upcoming] := by
  refine ⟨?_, fun _ => rfl⟩
  intro id hid
  exact ⟨g.upcoming, Int.lt_succ g.upcoming, List.mem_singleton.mp hid⟩

theorem subset (h : g.Covers ids) {fewer : List String} (hfewer : ∀ id ∈ fewer, id ∈ ids) :
    g.Covers fewer := by
  refine ⟨fun id hid => h.below id (hfewer id hid), ?_⟩
  intro hne
  obtain ⟨id, hid⟩ := List.exists_mem_of_ne_nil fewer hne
  exact h.started (List.ne_nil_of_mem (hfewer id hid))

end Covers

end IdGenerator

end NetworkTopology
