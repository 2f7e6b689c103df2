import NetworkTopology.Proofs.IdGenerator.Step

/-!
# Histories of id generators

A history is what a generator went through under arbitrary calls, each with
suppliers of its own that may answer differently from call to call or fail.
Between two resets the returned ids carry strictly increasing integers, so none
is returned twice, whatever happened to the content, to the taken ids or to the
suppliers in between.
-/

namespace NetworkTopology

namespace IdGenerator

/-- A call of a generator, with what its suppliers answer during that call. -/
inductive Call where
  | next (content : Except Fault (List String)) (taken : String → Except Fault Bool)
  | reset

/-- One call of a history: the generator before and after it, and its result.
A reset returns no id. -/
structure Turn where
  call : Call
  before : IdGenerator
  after : IdGenerator
  result : Except Fault (Option String)

/-- Carries out a call. -/
def Call.turn (g : IdGenerator) : Call → Turn
  | next content taken =>
    { call := next content taken, before := g, after := (g.next content taken).1
      result := (g.next content taken).2.map some }
  | reset => { call := reset, before := g, after := g.reset, result := .ok none }

def history : List Call → IdGenerator → List Turn
  | [], _ => []
  | call :: calls, g => call.turn g :: history calls (call.turn g).after

/-- The id that a call returned. -/
def Turn.id? (turn : Turn) : Option String :=
  match turn.result with
  | .ok id => id
  | .error _ => none

/-- The ids that were returned, in order. -/
def returned (turns : List Turn) : List String :=
  turns.filterMap Turn.id?

/-- Calls among which there is no reset. -/
def WithoutReset (turns : List Turn) : Prop :=
  ∀ turn ∈ turns, turn.call ≠ .reset

/-! ## Single calls -/

theorem turn_call (g : IdGenerator) (call : Call) : (call.turn g).call = call := by
  cases call <;> rfl

theorem turn_before (g : IdGenerator) (call : Call) : (call.turn g).before = g := by
  cases call <;> rfl

theorem turn_after_stem (g : IdGenerator) (call : Call) :
    (call.turn g).after.stem = g.stem := by
  cases call with
  | next content taken => exact next_stem
  | reset => rfl

/-- Every turn of a history is some call carried out. -/
theorem exists_turn_of_mem_history {calls : List Call} {g : IdGenerator} {turn : Turn}
    (h : turn ∈ history calls g) : turn = turn.call.turn turn.before := by
  induction calls generalizing g with
  | nil => cases h
  | cons call calls ih =>
      rcases List.mem_cons.mp h with rfl | h
      · rw [turn_call, turn_before]
      · exact ih h

theorem id?_turn_next {g : IdGenerator} {content : Except Fault (List String)}
    {taken : String → Except Fault Bool} {id : String} :
    ((Call.next content taken).turn g).id? = some id ↔
      (g.next content taken).2 = .ok id := by
  cases hresult : (g.next content taken).2 with
  | error fault => simp [Turn.id?, Call.turn, hresult, Except.map]
  | ok other => simp [Turn.id?, Call.turn, hresult, Except.map]

/-- A generator that cannot be primed fails with what kept it from being
primed, and stays as it is. -/
theorem turn_next_unprimed {g : IdGenerator} {content : Except Fault (List String)}
    {fault : Fault} (h : g.prime content = .error fault)
    (taken : String → Except Fault Bool) :
    ((Call.next content taken).turn g).result = .error fault ∧
      ((Call.next content taken).turn g).after = g := by
  rw [Call.turn, next_of_prime_error h]
  exact ⟨rfl, rfl⟩

/-- Once primed, a generator moves on, whether it finds an id or fails. -/
theorem turn_next_primed {g primed : IdGenerator} {content : Except Fault (List String)}
    (h : g.prime content = .ok primed) (taken : String → Except Fault Bool) :
    ((Call.next content taken).turn g).after.initialized = true ∧
      primed.counter < ((Call.next content taken).turn g).after.counter := by
  have hinit := prime_initialized h
  have hle := le_search primed.stem taken primed.counter
  rw [Call.turn, next_of_prime h]
  refine ⟨hinit, ?_⟩
  simp only
  omega

/-- An id is returned by a successful `next` only, and is then the stem with an
integer that the counter had reached before and has passed after. -/
theorem turn_id {call : Call} {g : IdGenerator} {id : String}
    (h : (call.turn g).id? = some id) :
    ∃ m, IntegerLiteral.Writable m ∧ id = g.stem ++ Decimal.text m ∧
      (g.initialized = true → g.counter ≤ m) ∧
      (call.turn g).after = { g with counter := m + 1, initialized := true } := by
  cases call with
  | reset => cases h
  | next content taken =>
      obtain ⟨m, hwritable, hform, -, hle, hafter⟩ := next_ok (id?_turn_next.mp h)
      exact ⟨m, hwritable, hform, hle, hafter⟩

/-- No call but a reset lowers the counter of a generator that has started, or
makes it start over. -/
theorem turn_counter {call : Call} {g : IdGenerator} (hcall : call ≠ .reset)
    (hstarted : g.initialized = true) :
    (call.turn g).after.initialized = true ∧ g.counter ≤ (call.turn g).after.counter := by
  cases call with
  | reset => exact absurd rfl hcall
  | next content taken =>
      obtain ⟨hafter, hlt⟩ := turn_next_primed (prime_of_initialized hstarted) taken
      exact ⟨hafter, Int.le_of_lt hlt⟩

/-! ## Calls between two resets -/

theorem exists_history_of_suffix {calls : List Call} {g : IdGenerator} {rest : List Turn}
    (h : rest <:+ history calls g) :
    ∃ calls' g', rest = history calls' g' ∧ g'.stem = g.stem := by
  induction calls generalizing g with
  | nil =>
      have hnil : rest = [] := List.suffix_nil.mp h
      exact ⟨[], g, hnil, rfl⟩
  | cons call calls ih =>
      rw [history, List.suffix_cons_iff] at h
      rcases h with rfl | h
      · exact ⟨call :: calls, g, rfl, rfl⟩
      · obtain ⟨calls', g', hrest, hstem⟩ := ih h
        exact ⟨calls', g', hrest, hstem.trans (turn_after_stem g call)⟩

theorem exists_history_of_prefix {calls : List Call} {g : IdGenerator} {front : List Turn}
    (h : front <+: history calls g) : ∃ calls', front = history calls' g := by
  induction calls generalizing g front with
  | nil =>
      have hnil : front = [] := List.prefix_nil.mp h
      exact ⟨[], hnil⟩
  | cons call calls ih =>
      cases front with
      | nil => exact ⟨[], rfl⟩
      | cons turn front =>
          rw [history, List.cons_prefix_cons] at h
          obtain ⟨rfl, hfront⟩ := h
          obtain ⟨calls', hcalls'⟩ := ih hfront
          exact ⟨call :: calls', by rw [history, hcalls']⟩

theorem exists_history_of_infix {calls : List Call} {g : IdGenerator}
    {segment : List Turn} (h : segment <:+: history calls g) :
    ∃ calls' g', segment = history calls' g' ∧ g'.stem = g.stem := by
  obtain ⟨rest, hsegment, hrest⟩ := List.infix_iff_prefix_suffix.mp h
  obtain ⟨later, g', rfl, hstem⟩ := exists_history_of_suffix hrest
  obtain ⟨calls', rfl⟩ := exists_history_of_prefix hsegment
  exact ⟨calls', g', rfl, hstem⟩

theorem withoutReset_cons {call : Call} {calls : List Call} {g : IdGenerator} :
    WithoutReset (history (call :: calls) g) ↔
      call ≠ .reset ∧ WithoutReset (history calls (call.turn g).after) := by
  simp [WithoutReset, history, turn_call]

theorem returned_cons {call : Call} {calls : List Call} {g : IdGenerator} :
    returned (history (call :: calls) g) =
      (call.turn g).id?.toList ++ returned (history calls (call.turn g).after) := by
  cases h : (call.turn g).id? with
  | none => simp [returned, history, h]
  | some id => simp [returned, history, h]

/-- A generator that has started returns ids of its stem whose integers are not
below its counter, as long as it is not reset. -/
theorem le_of_mem_returned {calls : List Call} {g : IdGenerator} {id : String}
    (hreset : WithoutReset (history calls g)) (hstarted : g.initialized = true)
    (h : id ∈ returned (history calls g)) : g.counter ≤ suffix g.stem id := by
  induction calls generalizing g with
  | nil => cases h
  | cons call calls ih =>
      obtain ⟨hcall, hlater⟩ := withoutReset_cons.mp hreset
      obtain ⟨hafter, hle⟩ := turn_counter hcall hstarted
      rw [returned_cons, List.mem_append, Option.mem_toList] at h
      rcases h with h | h
      · obtain ⟨m, hwritable, rfl, hge, -⟩ := turn_id h
        rw [suffix_append_text hwritable]
        exact hge hstarted
      · have hrest := ih hlater hafter h
        rw [turn_after_stem] at hrest
        omega

/-- Without a reset, the integers of the returned ids strictly increase. -/
theorem returned_increasing {calls : List Call} {g : IdGenerator}
    (hreset : WithoutReset (history calls g)) :
    ((returned (history calls g)).map (suffix g.stem)).Pairwise (· < ·) := by
  induction calls generalizing g with
  | nil => exact List.Pairwise.nil
  | cons call calls ih =>
      obtain ⟨-, hlater⟩ := withoutReset_cons.mp hreset
      have hrest := ih hlater
      rw [turn_after_stem] at hrest
      rw [returned_cons, List.map_append, List.pairwise_append]
      cases hid : (call.turn g).id? with
      | none => exact ⟨List.Pairwise.nil, hrest, by simp⟩
      | some id =>
          obtain ⟨m, hwritable, rfl, -, hafter⟩ := turn_id hid
          refine ⟨by simp, hrest, ?_⟩
          -- The counter has passed the integer of this id for good.
          intro a ha b hb
          obtain ⟨other, hother, rfl⟩ := List.mem_map.mp hb
          have ham : a = m := by
            simpa [suffix_append_text hwritable] using ha
          have hle := le_of_mem_returned hlater (by rw [hafter]) hother
          rw [hafter] at hle
          simp only at hle
          omega

/-- Ids with different integers are different. -/
theorem nodup_of_suffix_increasing {stem : String} {ids : List String}
    (h : (ids.map (suffix stem)).Pairwise (· < ·)) : ids.Nodup := by
  refine (List.pairwise_map.mp h).imp ?_
  intro a b hlt heq
  rw [heq] at hlt
  exact Int.lt_irrefl _ hlt

/-! ## Whole histories -/

/-- What a history keeps to.  A returned id was reported free in the call that
returned it.  A call that cannot prime the generator leaves it as it was, and a
call that fails later leaves it primed and past the counter that it started
from.  Between two resets the returned ids are distinct and their integers
strictly increase, whichever calls failed in between. -/
theorem ids_unique_between_resets (g : IdGenerator) (calls : List Call) :
    (∀ turn ∈ history calls g, ∀ content taken, turn.call = .next content taken →
      (∀ id, turn.id? = some id → taken id = .ok false) ∧
      (∀ fault, turn.before.prime content = .error fault →
        turn.result = .error fault ∧ turn.after = turn.before) ∧
      (∀ primed fault, turn.before.prime content = .ok primed →
        turn.result = .error fault →
        turn.after.initialized = true ∧ primed.counter < turn.after.counter)) ∧
    ∀ segment, segment <:+: history calls g → WithoutReset segment →
      (returned segment).Nodup ∧
      ((returned segment).map (suffix g.stem)).Pairwise (· < ·) := by
  constructor
  · intro turn hturn content taken hcall
    obtain ⟨g', rfl⟩ : ∃ g', turn = (Call.next content taken).turn g' :=
      ⟨turn.before, by rw [← hcall]; exact exists_turn_of_mem_history hturn⟩
    refine ⟨?_, ?_, ?_⟩
    · intro id hid
      obtain ⟨m, -, -, hfree, -⟩ := next_ok (id?_turn_next.mp hid)
      exact hfree
    · intro fault hprime
      exact turn_next_unprimed hprime taken
    · intro primed fault hprime _
      exact turn_next_primed hprime taken
  · intro segment hsegment hreset
    obtain ⟨calls', g', rfl, hstem⟩ := exists_history_of_infix hsegment
    have hincreasing := returned_increasing hreset
    rw [hstem] at hincreasing
    exact ⟨nodup_of_suffix_increasing hincreasing, hincreasing⟩

/-- A generator that first cannot list its content, then passes over a taken id,
then cannot ask whether an id is taken, and then goes on. -/
theorem ids_unique_across_failures :
    let unlisted : Call := .next (.error (.scripted "unlisted")) fun _ => .ok false
    let colliding : Call := .next (.ok ["v3", "x9"]) fun id => .ok (id == "v4")
    let unanswered : Call := .next (.ok []) fun _ => .error (.scripted "unanswered")
    let free : Call := .next (.ok []) fun _ => .ok false
    let turns := history [unlisted, colliding, unanswered, free] { stem := "v" }
    WithoutReset turns ∧ returned turns = ["v5", "v7"] ∧ (returned turns).Nodup ∧
      (unlisted.turn { stem := "v" }).after = { stem := "v" } := by
  intro unlisted colliding unanswered free turns
  have hfirst : (unlisted.turn { stem := "v" }).after = { stem := "v" } := rfl
  have hsecond : colliding.turn { stem := "v" } =
      { call := colliding, before := { stem := "v" }
        after := { stem := "v", counter := 6, initialized := true }
        result := .ok (some "v5") } := by
    have hstart : start "v" ["v3", "x9"] = 4 := by decide +kernel
    have hfour : "v" ++ Decimal.text 4 = "v4" := by decide +kernel
    have hfive : "v" ++ Decimal.text (4 + 1) = "v5" := by decide +kernel
    rw [Call.turn, next_of_prime (prime_of_content rfl)]
    simp only [hstart]
    rw [search_of_taken (IntegerLiteral.writable_of_lt_ten (by decide)) (by rw [hfour]; rfl),
      search_of_free (IntegerLiteral.writable_of_lt_ten (by decide)) (by rw [hfive]; rfl), hfive]
    rfl
  have hthird : unanswered.turn { stem := "v", counter := 6, initialized := true } =
      { call := unanswered, before := { stem := "v", counter := 6, initialized := true }
        after := { stem := "v", counter := 7, initialized := true }
        result := .error (.scripted "unanswered") } := by
    rw [Call.turn, next_of_prime (prime_of_initialized rfl)]
    simp only
    rw [search_of_error (IntegerLiteral.writable_of_lt_ten (by decide)) rfl]
    rfl
  have hfourth : free.turn { stem := "v", counter := 7, initialized := true } =
      { call := free, before := { stem := "v", counter := 7, initialized := true }
        after := { stem := "v", counter := 8, initialized := true }
        result := .ok (some "v7") } := by
    have hseven : "v" ++ Decimal.text 7 = "v7" := by decide +kernel
    rw [Call.turn, next_of_prime (prime_of_initialized rfl)]
    simp only
    rw [search_of_free (IntegerLiteral.writable_of_lt_ten (by decide)) rfl, hseven]
    rfl
  have hturns : turns = [unlisted.turn { stem := "v" }, colliding.turn { stem := "v" },
      unanswered.turn { stem := "v", counter := 6, initialized := true },
      free.turn { stem := "v", counter := 7, initialized := true }] := by
    simp only [turns, history, hfirst, hsecond, hthird]
  have hreset : WithoutReset turns := by
    rw [hturns]
    simp [WithoutReset, turn_call, unlisted, colliding, unanswered, free]
  have hreturned : returned turns = ["v5", "v7"] := by
    rw [hturns, hsecond, hthird, hfourth]
    rfl
  obtain ⟨hsound, hunique⟩ := ids_unique_between_resets { stem := "v" }
    [unlisted, colliding, unanswered, free]
  obtain ⟨hnodup, -⟩ := hunique turns (List.infix_refl _) hreset
  have hunprimed := (hsound (unlisted.turn { stem := "v" }) (by simp [history]) _ _ rfl).2.1
    (.scripted "unlisted") rfl
  exact ⟨hreset, hreturned, hnodup, hunprimed.2⟩

end IdGenerator

end NetworkTopology
