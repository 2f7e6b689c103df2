import NetworkTopology.Proofs.Store.Listing
import NetworkTopology.Proofs.Topology.Removal
import NetworkTopology.Session.Query

/-!
# Questions and listings

Whatever is asked of a store that holds vertices, or edges, is answered as its listing
says: by counting it, by looking through it, or by what is left of it under criteria.
-/

namespace NetworkTopology

theorem Criteria.totalOn_vertices {criterion : Criterion}
    (h : ∀ v : Vertex, ∃ answer, criterion.ask (.vertex v) = .ok answer) :
    TotalOn StoreKind.vertices.Holds (.of [criterion]) := by
  intro asked hasked entity hentity
  obtain ⟨v, -, rfl⟩ := hentity
  rw [List.mem_singleton.mp hasked]
  exact h v

/-! ## Edges of a vertex -/

namespace Store

/-- What only an edge store answers agrees with what it lists. -/
structure AgreesOnEdges (s : Store) : Prop where
  attached_eq : ∃ es : List Edge, s.list [] = .ok (es.map .edge) ∧
    s.attached none = .ok [] ∧
    (∀ vertex, s.attached (some vertex) = .ok (es.filter fun e => e.connects vertex)) ∧
    ∀ named, s.attachedToEach named =
      .ok ((named.filterMap id).eraseDups.map fun vertex =>
        (vertex, es.filter fun e => e.connects vertex))

theorem agreesOnEdges {s : Store} (hs : ∀ entity ∈ s.entries, entity.IsEdge) :
    s.AgreesOnEdges := by
  have hedges : ∀ entity ∈ s.entries, ∃ e : Edge, True ∧ .edge e = entity := by
    intro entity hmem
    obtain ⟨e, rfl⟩ := hs entity hmem
    exact ⟨e, trivial, rfl⟩
  obtain ⟨es, hes, -⟩ := exists_map_eq hedges
  refine ⟨es, ?_, rfl, attached_of_edges hes, attachedToEach_of_edges hes⟩
  rw [list, Criteria.select_nil, hes]

/-- What only a store of a kind answers agrees with what it lists. -/
def AgreesAs (s : Store) (c : Criteria) (listed : List Entity) : StoreKind → Prop
  | .vertices => s.AgreesOnVertices c listed
  | .edges => s.AgreesOnEdges

theorem Reached.agreesAs {kind : StoreKind} {s : Store} (h : s.Reached kind kind.Holds)
    {c : Criteria} (hc : c.TotalOn kind.Holds) :
    s.AgreesAs c (s.entries.filter c.holds) kind := by
  cases kind with
  | vertices => exact agreesOnVertices h.sort_of_mem hc
  | edges => exact agreesOnEdges h.sort_of_mem

/-! ## Questions -/

theorem contains_eq_any (s : Store) (key : Key) :
    s.contains key = s.entries.any fun entity => some key == some entity.key := by
  rw [contains]
  congr 1
  funext entity
  rw [Bool.eq_iff_iff, beq_iff_eq, beq_iff_eq, Option.some.injEq, eq_comm]

theorem contains_own_eq_any (s : Store) (id : String) :
    s.contains ⟨s.ns, id⟩ = s.entries.any fun entity => entity.key.id == id := by
  rw [Bool.eq_iff_iff, ← containsId, containsId_iff, ids, List.mem_map, List.any_eq_true]
  simp only [beq_iff_eq]

/-- Without criteria a lookup finds whatever has the key. -/
theorem get?_nil (s : Store) (key : Option Key) : s.get? [] key = .ok (key.bind s.find?) := by
  rw [get?]
  cases key.bind s.find? with
  | none => rfl
  | some entity => rfl

theorem has_nil (s : Store) (key : Option Key) : s.has [] key = .ok (key.any s.contains) := by
  rw [has, get?_nil]
  cases key with
  | none => rfl
  | some key => exact congrArg Except.ok List.isSome_find?

end Store

namespace Session

def Query.lookUp : StoreKind → Option Key → List Criterion → Query
  | .vertices, key, criteria => .vertex key criteria
  | .edges, key, criteria => .edge key criteria

/-- Asks the store of a kind whether a lookup would find anything.  Edges are looked for
without criteria. -/
def Query.has : StoreKind → Option Key → List Criterion → Query
  | .vertices, key, criteria => .hasVertex key criteria
  | .edges, key, _ => .hasEdge key

/-- The questions about membership and number that the store of a kind answers agree with
what it lists, and with what it looks up. -/
structure Answers {O : Type} (t : Topology O) (kind : StoreKind) (all : List Entity) :
    Prop where
  count : (Query.count kind).ask (.store kind) t = .ok (.number all.length)
  length : Query.length.ask (.store kind) t = .ok (.number all.length)
  holds : ∀ key, (Query.holds key).ask (.store kind) t =
    .ok (.flag (all.any fun entity => key == some entity.key))
  holdsId : ∀ id, (Query.holdsId id).ask (.store kind) t =
    .ok (.flag (all.any fun entity => entity.key.id == id))
  lookUp : ∀ key criteria, (Query.lookUp kind key criteria).ask (.store kind) t =
    ((t.store kind).get? (.of criteria) key).map .entity
  has : ∀ key criteria, (kind = .edges → criteria = []) →
    (Query.has kind key criteria).ask (.store kind) t =
      ((t.store kind).has (.of criteria) key).map .flag

variable {O : Type}

theorem contains_store (t : Topology O) (kind : StoreKind) (key : Key) :
    Query.contains (.store kind) key t = (t.store kind).contains key := by
  cases kind <;> rfl

theorem store_ns (t : Topology O) (kind : StoreKind) : (t.store kind).ns = t.ns := by
  cases kind with
  | vertices => rfl
  | edges => exact t.edges_ns

theorem answers (t : Topology O) (kind : StoreKind) :
    Answers t kind (t.store kind).entries where
  count := by
    cases kind <;> rfl
  length := by
    cases kind <;> rfl
  holds := by
    intro key
    change Except.ok (Outcome.flag (key.any fun key => Query.contains (.store kind) key t)) = _
    cases key with
    | none => simp
    | some key => rw [Option.any_some, contains_store, Store.contains_eq_any]
  holdsId := by
    intro id
    change Except.ok (Outcome.flag (Query.contains (.store kind) ⟨t.ns, id⟩ t)) = _
    rw [contains_store, ← store_ns t kind, Store.contains_own_eq_any]
  lookUp := by
    intro key criteria
    cases kind <;> rfl
  has := by
    intro key criteria hcriteria
    cases kind with
    | vertices => rfl
    | edges =>
        obtain rfl := hcriteria rfl
        have hhas : (t.store .edges).has (.of []) key = .ok (key.any t.edges.contains) :=
          t.edges.has_nil key
        rw [hhas]
        rfl

end Session

/-! ## Agreement -/

namespace Store

/-- What is asked of a store is answered as its listing says, whatever was done to it:
the listing shows one entity for each id, all of the namespace, and lookups, members,
counts and membership come to what the listing shows. -/
theorem queries_agree_with_listing {kind : StoreKind} {s : Store} (h : s.Reached kind kind.Holds)
    {c d : Criteria} (hc : c.TotalOn kind.Holds) (hd : d.TotalOn kind.Holds) :
    ∃ all listed : List Entity, s.list [] = .ok all ∧
      (all.map fun entity => entity.key.id).Nodup ∧ (∀ entity ∈ all, entity.key.ns = s.ns) ∧
      s.Agrees c d listed ∧ s.AgreesAs c listed kind ∧
      ∀ {O : Type} (t : Topology O), t.store kind = s → Session.Answers t kind all := by
  refine ⟨s.entries, s.entries.filter c.holds, Criteria.select_nil s.entries, s.ids_nodup,
    s.ns_eq, agrees_of_totalOn h.sort_of_mem hc hd, h.agreesAs hc, ?_⟩
  rintro O t rfl
  exact Session.answers t kind

def router (ns : String) (node : Int) : Vertex :=
  { key := ⟨ns, "r"⟩, nodeId := .int node }

/-- A group with the router, an absent member and an empty place. -/
def site : Vertex :=
  { key := ⟨"n", "s"⟩
    group := some { children := [some ⟨"n", "r"⟩, some ⟨"n", "z"⟩, none] } }

/-- A router that was added twice is listed once, and is the only member of its site. -/
theorem site_listed :
    let s := ((empty "n").mutate (.add [some (.vertex (router "n" 1)), none,
      some (.vertex (router "m" 2)), some (.vertex site), some (.vertex (router "n" 3))])).mutate
        (.remove [some ⟨"m", "s"⟩, none])
    s.Agrees (.of [.hasNode]) (.of [.collapsible]) [.vertex (router "n" 3)] ∧
      (∃ members, s.childrenOf (.of [.hasNode]) (some site.key) = .ok members ∧
        ∀ entity, entity ∈ members ↔ entity = .vertex (router "n" 3)) ∧
      ∀ t : Topology Unit, t.store .vertices = s →
        Session.Answers t .vertices [.vertex (router "n" 3), .vertex site] := by
  intro s
  have hreached : s.Reached .vertices StoreKind.vertices.Holds := by
    have hnew : make .vertices "n" = .ok (empty "n") := rfl
    refine .mutate (.mutate (.make hnew) _ ?_) _ trivial
    intro entity hmem
    simp only [List.mem_cons, List.not_mem_nil, Option.some.injEq, or_false, reduceCtorEq,
      false_or] at hmem
    rcases hmem with rfl | rfl | rfl | rfl
    · exact ⟨router "n" 1, List.nodup_nil, rfl⟩
    · exact ⟨router "m" 2, List.nodup_nil, rfl⟩
    · exact ⟨site, by decide, rfl⟩
    · exact ⟨router "n" 3, List.nodup_nil, rfl⟩
  have hnode : Criteria.TotalOn StoreKind.vertices.Holds (.of [.hasNode]) :=
    Criteria.totalOn_vertices fun v => ⟨_, rfl⟩
  have hgroup : Criteria.TotalOn StoreKind.vertices.Holds (.of [.collapsible]) :=
    Criteria.totalOn_vertices fun v => ⟨_, rfl⟩
  obtain ⟨all, listed, hall, -, -, hagrees, hvertices, hanswers⟩ :=
    queries_agree_with_listing hreached hnode hgroup
  have hentries : all = [.vertex (router "n" 3), .vertex site] :=
    Except.ok.inj (hall.symm.trans (by decide))
  have hlisted : listed = [.vertex (router "n" 3)] :=
    Except.ok.inj (hagrees.list_eq.symm.trans (by decide))
  subst hentries hlisted
  obtain ⟨members, hmembers, -, hiff⟩ := hvertices.members site (by decide) rfl
  refine ⟨hagrees, ⟨members, hmembers, ?_⟩, fun t ht => hanswers t ht⟩
  intro entity
  rw [hiff, List.mem_singleton]
  constructor
  · rintro ⟨rfl, -⟩
    rfl
  · rintro rfl
    exact ⟨rfl, by decide⟩

end Store

end NetworkTopology
