import NetworkTopology.Proofs.Store.Replay
import NetworkTopology.Topology.Provider

/-!
# Ids looked up in a store

A generator over a store can find out whether an id is in use in two ways: the store
looks up the key that the id has in its own namespace, or everything that it lists is
run through and the bare ids are compared.  Whatever happens to the store, both ways
lead the same way: a store holds nothing of another namespace, and nothing under a key
that is not its own.
-/

namespace NetworkTopology

variable {O : Type}

/-- The ways to look an id up in a store. -/
inductive Lookup where
  | index
  | scan

/-- Is an id in use?  Running through a list could fail, a look-up by key cannot. -/
def Store.isTaken (s : Store) : Lookup → String → Except Fault Bool
  | .index => fun id => .ok (s.containsId id)
  | .scan => IdGenerator.scan (.ok s.ids)

namespace IdGenerator

/-- The next id over a store, with ids looked up in one of the ways. -/
def nextIn (g : IdGenerator) (s : Store) (lookup : Lookup) :
    IdGenerator × Except Fault String :=
  g.next (.ok s.ids) (s.isTaken lookup)

/-- What happens to a store and to a generator over it. -/
inductive Use where
  | mutate (m : Store.Mutation)
  | next
  | reset

/-- Where a use leads to: the store and the generator after it, and its result.  Only
`next` returns an id. -/
structure Outcome where
  store : Store
  generator : IdGenerator
  result : Except Fault (Option String)

/-- Carries out a use, with ids looked up in one of the ways. -/
def Use.outcome (lookup : Lookup) (s : Store) (g : IdGenerator) : Use → Outcome
  | mutate m => { store := s.mutate m, generator := g, result := .ok none }
  | next =>
    { store := s, generator := (g.nextIn s lookup).1, result := (g.nextIn s lookup).2.map some }
  | reset => { store := s, generator := g.reset, result := .ok none }

/-- The outcomes of uses that are carried out in order. -/
def outcomes (lookup : Lookup) : List Use → Store → IdGenerator → List Outcome
  | [], _, _ => []
  | use :: uses, s, g =>
    use.outcome lookup s g ::
      outcomes lookup uses (use.outcome lookup s g).store (use.outcome lookup s g).generator

/-- A store finds by key what a run through its ids finds. -/
theorem scan_ids (s : Store) (id : String) : scan (.ok s.ids) id = .ok (s.containsId id) := by
  have hcontains : s.ids.contains id = s.containsId id := by
    rw [Bool.eq_iff_iff, List.contains_iff_mem, Store.containsId_iff]
  exact congrArg Except.ok hcontains

theorem nextIn_eq (g : IdGenerator) (s : Store) (lookup : Lookup) :
    g.nextIn s lookup = g.next (.ok s.ids) fun id => .ok (s.containsId id) := by
  cases lookup with
  | index => rfl
  | scan => exact congrArg (g.next (.ok s.ids)) (funext (scan_ids s))

/-- One use leads both ways to the same outcome. -/
theorem Use.outcome_eq (use : Use) (s : Store) (g : IdGenerator) :
    use.outcome .index s g = use.outcome .scan s g := by
  cases use with
  | mutate m => rfl
  | next => rw [Use.outcome, Use.outcome, nextIn_eq, nextIn_eq]
  | reset => rfl

/-- A generator that looks ids up by key and one that runs through the ids of the store
return the same ids and fail alike, and their counters agree after every step of every
run.  The providers of a topology, which look ids up by key, could as well do the
other. -/
theorem index_refines_scan (s : Store) (g : IdGenerator) (uses : List Use) :
    outcomes .index uses s g = outcomes .scan uses s g ∧
    ∀ (lookup : Lookup) (p : Nat) (t : Topology O),
      t.nextVertexId p =
        (t.setProvider p { t.provider p with
          vertexIds := ((t.provider p).vertexIds.nextIn t.vertices lookup).1 },
          ((t.provider p).vertexIds.nextIn t.vertices lookup).2) ∧
      t.nextEdgeId p =
        (t.setProvider p { t.provider p with
          edgeIds := ((t.provider p).edgeIds.nextIn t.edges lookup).1 },
          ((t.provider p).edgeIds.nextIn t.edges lookup).2) := by
  constructor
  · induction uses generalizing s g with
    | nil => rfl
    | cons use uses ih => rw [outcomes, outcomes, use.outcome_eq s g, ih]
  · intro lookup p t
    rw [nextIn_eq, nextIn_eq]
    exact ⟨rfl, rfl⟩

end IdGenerator

end NetworkTopology
