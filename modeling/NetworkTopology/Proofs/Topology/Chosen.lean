import NetworkTopology.Proofs.Result
import NetworkTopology.Proofs.Topology.Selecting

/-!
# What a selection chooses

The node ids of selected vertices are a set.  In which order vertices are selected, and how
often, whether one is given itself or by its key, and what else is given that is no vertex of
the topology: none of it shows in the selection.
-/

namespace NetworkTopology

variable {O : Type}

/-! ## Sets of ids -/

theorem NodeId.same_int_iff {m n : Int} : (int m).Same (int n) ↔ m = n := by
  rw [Same, identity, identity, int.injEq]

namespace Selection

variable {ns : String} {ids more : List NodeId} {id other : NodeId} {xs : List (Option Entity)}

theorem holds_iff : holds ids id = true ↔ ∃ other ∈ ids, other.Same id := by
  simp only [holds, List.any_eq_true, decide_eq_true_eq]

theorem holds_insertId :
    holds (insertId ids id) other = true ↔ holds ids other = true ∨ id.Same other := by
  rw [insertId]
  by_cases hthere : holds ids id = true
  · rw [if_pos hthere]
    constructor
    · exact .inl
    · rintro (hother | hsame)
      · exact hother
      · obtain ⟨earlier, hmem, hearlier⟩ := holds_iff.mp hthere
        exact holds_iff.mpr ⟨earlier, hmem, hearlier.trans hsame⟩
  · rw [if_neg hthere, holds_iff, holds_iff]
    simp only [List.mem_append, List.mem_singleton, or_and_right, exists_or, exists_eq_left]

/-- What is collected is what was there and what the selected vertices count for. -/
theorem holds_collect (h : collect ns ids xs = .ok more) :
    holds more id = true ↔ holds ids id = true ∨
      ∃ x ∈ xs, ∃ own, nodeIdOf ns x = .ok (some own) ∧ own.Same id := by
  induction xs generalizing ids with
  | nil =>
      cases h
      simp only [List.not_mem_nil, false_and, exists_false, or_false]
  | cons x xs ih =>
      rw [collect] at h
      obtain ⟨found, hfound, h⟩ := Result.of_bind_ok h
      simp only [List.exists_mem_cons_iff, hfound, Except.ok.injEq]
      cases found with
      | none =>
          rw [ih h]
          simp only [reduceCtorEq, false_and, exists_false, false_or]
      | some own =>
          rw [ih h, holds_insertId, or_assoc]
          simp only [Option.some.injEq, exists_eq_left']

/-- Ids of different names. -/
def Distinct (ids : List NodeId) : Prop :=
  ids.Pairwise fun id other => ¬ id.Same other

theorem distinct_insertId (h : Distinct ids) : Distinct (insertId ids id) := by
  rw [insertId]
  by_cases hthere : holds ids id = true
  · rw [if_pos hthere]
    exact h
  · rw [if_neg hthere, Distinct, List.pairwise_append]
    refine ⟨h, List.pairwise_singleton _ _, ?_⟩
    intro other hother last hlast hsame
    rw [List.mem_singleton.mp hlast] at hsame
    exact hthere (holds_iff.mpr ⟨other, hother, hsame⟩)

theorem distinct_collect (hids : Distinct ids) (h : collect ns ids xs = .ok more) :
    Distinct more := by
  induction xs generalizing ids with
  | nil =>
      cases h
      exact hids
  | cons x xs ih =>
      rw [collect] at h
      obtain ⟨found, -, h⟩ := Result.of_bind_ok h
      cases found with
      | none => exact ih hids h
      | some own => exact ih (distinct_insertId hids) h

theorem distinct_map_int_iff {numbers : List Int} :
    Distinct (numbers.map .int) ↔ numbers.Nodup := by
  rw [Distinct, List.pairwise_map, List.nodup_iff_pairwise_ne]
  simp only [NodeId.same_int_iff, ne_eq]

theorem holds_map_int_iff {numbers : List Int} {n : Int} :
    holds (numbers.map .int) (.int n) = true ↔ n ∈ numbers := by
  simp only [holds_iff, List.mem_map, exists_exists_and_eq_and, NodeId.same_int_iff,
    exists_eq_right]

theorem sameIds_of_mem_iff {ids ids' : List NodeId} (h : ∀ id, id ∈ ids ↔ id ∈ ids') :
    sameIds ids ids' = true := by
  rw [sameIds, Bool.and_eq_true, List.all_eq_true, List.all_eq_true]
  constructor
  · intro id hid
    exact holds_iff.mpr ⟨id, (h id).mp hid, .refl id⟩
  · intro id hid
    exact holds_iff.mpr ⟨id, (h id).mpr hid, .refl id⟩

/-! ## Node ids of vertices -/

/-- Where node ids are integers, what is collected are the integers that are counted. -/
theorem exists_numbers (h : ∀ x ∈ xs, Countable ns x) :
    ∃ numbers : List Int, numbers.Nodup ∧ collect ns [] xs = .ok (numbers.map .int) ∧
      ∀ n, n ∈ numbers ↔ ∃ x ∈ xs, nodeIdOf ns x = .ok (some (.int n)) := by
  obtain ⟨numbers, hnumbers, -⟩ := exists_collect h []
  refine ⟨numbers, ?_, hnumbers, ?_⟩
  · exact distinct_map_int_iff.mp (distinct_collect .nil hnumbers)
  · intro n
    rw [← holds_map_int_iff, holds_collect hnumbers]
    constructor
    · rintro (hnothing | ⟨x, hx, own, hown, hsame⟩)
      · obtain ⟨other, hother, -⟩ := holds_iff.mp hnothing
        cases hother
      · rcases h x hx with hnone | ⟨m, hm⟩
        · rw [hnone] at hown
          cases hown
        · rw [hm] at hown
          cases hown
          obtain rfl := NodeId.same_int_iff.mp hsame
          exact ⟨x, hx, hm⟩
    · rintro ⟨x, hx, hown⟩
      exact .inr ⟨x, hx, _, hown, .refl _⟩

end Selection

/-! ## What selected entities stand for -/

namespace Topology

variable {t : Topology O} {xs ys : List (Option Entity)} {x : Option Entity} {entity : Entity}
  {v : Vertex}

/-- A vertex stands for itself, and anything else for the vertex that is stored under its
key. -/
inductive StandsFor (t : Topology O) : Option Entity → Vertex → Prop
  | itself (v : Vertex) : StandsFor t (some (.vertex v)) v
  | stored {entity : Entity} {v : Vertex} (bare : ∀ w, entity ≠ .vertex w)
      (mem : .vertex v ∈ t.vertices.entries) (key_eq : v.key = entity.key) :
      StandsFor t (some entity) v

theorem resolve_of_bare (bare : ∀ w, entity ≠ .vertex w) :
    t.resolve (some entity) = some ((t.vertices.find? entity.key).getD entity) := by
  cases entity with
  | vertex v => exact absurd rfl (bare v)
  | ref key | vertexRef key | edgeRef key | connector c | edge e => rfl

theorem resolve_of_stored (bare : ∀ w, entity ≠ .vertex w)
    (mem : .vertex v ∈ t.vertices.entries) (key_eq : v.key = entity.key) :
    t.resolve (some entity) = some (.vertex v) := by
  have hfind : t.vertices.find? entity.key = some (.vertex v) :=
    Store.find?_eq_some_iff.mpr ⟨mem, key_eq⟩
  rw [resolve_of_bare bare, hfind]
  rfl

theorem resolve_eq_iff : t.resolve x = some (.vertex v) ↔ t.StandsFor x v := by
  constructor
  · intro h
    rcases x with _ | entity
    · cases h
    · by_cases hvertex : ∃ w, entity = .vertex w
      · obtain ⟨w, rfl⟩ := hvertex
        cases h
        exact .itself v
      · have bare := not_exists.mp hvertex
        rw [resolve_of_bare bare] at h
        cases hfind : t.vertices.find? entity.key with
        | none =>
            rw [hfind] at h
            exact absurd (Option.some.inj h) (bare v)
        | some found =>
            rw [hfind] at h
            obtain rfl := Option.some.inj h
            obtain ⟨hmem, hkey⟩ := Store.find?_eq_some_iff.mp hfind
            exact .stored bare hmem hkey
  · intro h
    cases h with
    | itself => rfl
    | stored bare mem key_eq => exact resolve_of_stored bare mem key_eq

/-- A node id is chosen by a vertex of the namespace that something selected stands for. -/
def Chosen (t : Topology O) (xs : List (Option Entity)) (n : Int) : Prop :=
  ∃ x ∈ xs, ∃ v, t.StandsFor x v ∧ v.key.ns = t.ns ∧ v.nodeId = .int n

theorem nodeIdOf_resolve_iff {n : Int} :
    Selection.nodeIdOf t.ns (t.resolve x) = .ok (some (.int n)) ↔
      ∃ v, t.StandsFor x v ∧ v.key.ns = t.ns ∧ v.nodeId = .int n := by
  simp only [Selection.nodeIdOf_eq_int_iff, resolve_eq_iff]

/-- Stored are vertices, and their node ids are integers if they have any. -/
def BoundByIntegers (t : Topology O) : Prop :=
  ∀ entity ∈ t.vertices.entries, ∃ v : Vertex, v.nodeId.IsNodeId ∧ .vertex v = entity

/-- The vertices among what is selected have integers as node ids if they have any. -/
def Selectable (xs : List (Option Entity)) : Prop :=
  ∀ v : Vertex, some (.vertex v) ∈ xs → v.nodeId.IsNodeId

theorem Selectable.append (hxs : Selectable xs) (hys : Selectable ys) :
    Selectable (xs ++ ys) := by
  intro v hv
  rcases List.mem_append.mp hv with hv | hv
  · exact hxs v hv
  · exact hys v hv

/-- A vertex with an integer can be selected along with others. -/
theorem Selectable.cons {v : Vertex} {n : Int} (hn : v.nodeId = .int n) (hxs : Selectable xs) :
    Selectable (some (.vertex v) :: xs) := by
  intro w hw
  rcases List.mem_cons.mp hw with heq | hw
  · cases heq
    exact .inr ⟨n, hn⟩
  · exact hxs w hw

/-- What is no vertex can be selected along with others. -/
theorem Selectable.cons_bare (bare : ∀ v, x ≠ some (.vertex v)) (hxs : Selectable xs) :
    Selectable (x :: xs) := by
  intro v hv
  rcases List.mem_cons.mp hv with rfl | hv
  · exact absurd rfl (bare v)
  · exact hxs v hv

theorem isNodeId_of_standsFor (ht : t.BoundByIntegers) (hxs : Selectable xs) (hx : x ∈ xs)
    (h : t.StandsFor x v) : v.nodeId.IsNodeId := by
  cases h with
  | itself => exact hxs v hx
  | stored _ mem _ =>
      obtain ⟨w, hw, heq⟩ := ht _ mem
      cases heq
      exact hw

theorem countable_of_selectable (ht : t.BoundByIntegers) (hxs : Selectable xs) :
    ∀ x ∈ xs.map t.resolve, Selection.Countable t.ns x := by
  intro resolved hresolved
  obtain ⟨x, hx, rfl⟩ := List.mem_map.mp hresolved
  cases hresolve : t.resolve x with
  | none => exact .inl rfl
  | some entity =>
      cases entity with
      | vertex v =>
          exact Selection.countable_of_isNodeId
            (isNodeId_of_standsFor ht hxs hx (resolve_eq_iff.mp hresolve))
      | ref key | vertexRef key | edgeRef key | connector c | edge e => exact .inl rfl

/-- What is selected comes to a set of integers, for a view of alarms or of nodes, and to
nothing for any other view. -/
structure Chooses (t : Topology O) (xs : List (Option Entity)) (numbers : List Int) : Prop where
  nodup : numbers.Nodup
  alarms : t.select xs (some .alarm) = .ok (.alarms (numbers.map .int))
  nodes : t.select xs (some .node) = .ok (.nodes (numbers.map .int))
  nothing : ∀ contentType, contentType ≠ some .alarm → contentType ≠ some .node →
    t.select xs contentType = .ok .nothing
  mem_iff : ∀ n, n ∈ numbers ↔ t.Chosen xs n

theorem exists_chooses (ht : t.BoundByIntegers) (hxs : Selectable xs) :
    ∃ numbers, t.Chooses xs numbers := by
  obtain ⟨numbers, hnodup, hcollect, hmem⟩ :=
    Selection.exists_numbers (countable_of_selectable ht hxs)
  have hselect : ∀ contentType, t.select xs contentType =
      .ok (Selection.ofIds (numbers.map .int) contentType) := by
    intro contentType
    rw [select, Selection.make, hcollect]
    rfl
  refine ⟨numbers, hnodup, hselect _, hselect _, ?_, ?_⟩
  · intro contentType halarm hnode
    rw [hselect]
    rcases contentType with _ | contentType
    · rfl
    · cases contentType with
      | alarm => exact absurd rfl halarm
      | node => exact absurd rfl hnode
      | application | businessService | ipService => rfl
  · intro n
    rw [hmem]
    simp only [List.mem_map, exists_exists_and_eq_and, nodeIdOf_resolve_iff]
    rfl

theorem Chooses.eq_of_alarms {numbers numbers' : List Int} (h : t.Chooses xs numbers)
    (h' : t.select xs (some .alarm) = .ok (.alarms (numbers'.map .int))) :
    numbers = numbers' := by
  rw [h.alarms, Except.ok.injEq, Selection.alarms.injEq] at h'
  exact (List.map_injective_iff.mpr fun _ _ => NodeId.int.inj) h'

theorem Chooses.same {numbers numbers' : List Int} (h : t.Chooses xs numbers)
    (h' : t.Chooses ys numbers') (hchosen : ∀ n, t.Chosen xs n ↔ t.Chosen ys n)
    (contentType : Option ContentType) :
    ∃ before after, t.select xs contentType = .ok before ∧
      t.select ys contentType = .ok after ∧ before.same after = true := by
  have hsame : Selection.sameIds (numbers.map .int) (numbers'.map .int) = true := by
    apply Selection.sameIds_of_mem_iff
    intro id
    simp only [List.mem_map, h.mem_iff, h'.mem_iff, hchosen]
  by_cases halarm : contentType = some .alarm
  · subst halarm
    exact ⟨_, _, h.alarms, h'.alarms, hsame⟩
  · by_cases hnode : contentType = some .node
    · subst hnode
      exact ⟨_, _, h.nodes, h'.nodes, hsame⟩
    · exact ⟨_, _, h.nothing _ halarm hnode, h'.nothing _ halarm hnode, rfl⟩

/-! ## What does not show -/

/-- Nothing, something of another namespace, or a reference to what is not stored. -/
inductive Idle (t : Topology O) : Option Entity → Prop
  | nothing : Idle t none
  | foreign {entity : Entity} (ns_ne : entity.key.ns ≠ t.ns) : Idle t (some entity)
  | unknown {entity : Entity} (bare : ∀ w, entity ≠ .vertex w)
      (absent : t.vertices.contains entity.key = false) : Idle t (some entity)

/-- Another way to select the same: in another order, with repetitions, with something
idle, or with a bare reference in place of a stored vertex. -/
inductive Variant (t : Topology O) : List (Option Entity) → List (Option Entity) → Prop
  | permuted {xs ys : List (Option Entity)} (perm : xs.Perm ys) : Variant t xs ys
  | repeated {xs : List (Option Entity)} {x : Option Entity} (mem : x ∈ xs) :
      Variant t xs (x :: xs)
  | padded (xs : List (Option Entity)) {x : Option Entity} (idle : t.Idle x) :
      Variant t xs (x :: xs)
  | replaced (xs : List (Option Entity)) {v : Vertex} {entity : Entity}
      (mem : .vertex v ∈ t.vertices.entries) (bare : ∀ w, entity ≠ .vertex w)
      (key_eq : v.key = entity.key) : Variant t (some (.vertex v) :: xs) (some entity :: xs)
  | trans {xs ys zs : List (Option Entity)} (h : Variant t xs ys) (h' : Variant t ys zs) :
      Variant t xs zs

theorem Idle.not_standsFor (h : t.Idle x) (hown : v.key.ns = t.ns) : ¬ t.StandsFor x v := by
  intro hstands
  cases h with
  | nothing => cases hstands
  | foreign ns_ne =>
      cases hstands with
      | itself => exact ns_ne hown
      | stored _ _ key_eq => exact ns_ne (key_eq ▸ hown)
  | unknown bare absent =>
      cases hstands with
      | itself => exact bare v rfl
      | stored _ mem key_eq =>
          rw [Store.contains_iff.mpr ⟨_, mem, key_eq⟩] at absent
          cases absent

theorem Variant.chosen_iff (h : t.Variant xs ys) (n : Int) :
    t.Chosen xs n ↔ t.Chosen ys n := by
  induction h with
  | permuted perm => simp only [Chosen, perm.mem_iff]
  | repeated mem =>
      rw [Chosen, Chosen, List.exists_mem_cons_iff]
      constructor
      · exact .inr
      · rintro (hx | hxs)
        · exact ⟨_, mem, hx⟩
        · exact hxs
  | padded xs idle =>
      rw [Chosen, Chosen, List.exists_mem_cons_iff]
      constructor
      · exact .inr
      · rintro (⟨v, hstands, hown, -⟩ | hxs)
        · exact absurd hstands (idle.not_standsFor hown)
        · exact hxs
  | replaced xs mem bare key_eq =>
      have hresolve := resolve_of_stored bare mem key_eq
      rw [Chosen, Chosen, List.exists_mem_cons_iff, List.exists_mem_cons_iff]
      simp only [← resolve_eq_iff, hresolve]
      rfl
  | trans _ _ ih ih' => exact ih.trans ih'

/-- A selection is the set of the node ids that selected vertices of the namespace have:
what is selected together comes to the union, and another way to select the same comes to
the same selection. -/
theorem selections_are_sets (ht : t.BoundByIntegers) (hxs : Selectable xs) :
    ∃ numbers, t.Chooses xs numbers ∧
      (∀ ys, Selectable ys → ∃ more both, t.Chooses ys more ∧ t.Chooses (xs ++ ys) both ∧
        ∀ n, n ∈ both ↔ n ∈ numbers ∨ n ∈ more) ∧
      ∀ ys, Selectable ys → t.Variant xs ys → ∀ contentType,
        ∃ before after, t.select xs contentType = .ok before ∧
          t.select ys contentType = .ok after ∧ before.same after = true := by
  obtain ⟨numbers, hnumbers⟩ := exists_chooses ht hxs
  refine ⟨numbers, hnumbers, ?_, ?_⟩
  · intro ys hys
    obtain ⟨more, hmore⟩ := exists_chooses ht hys
    obtain ⟨both, hboth⟩ := exists_chooses ht (hxs.append hys)
    refine ⟨more, both, hmore, hboth, ?_⟩
    intro n
    rw [hboth.mem_iff, hnumbers.mem_iff, hmore.mem_iff, Chosen, Chosen, Chosen]
    simp only [List.mem_append, or_and_right, exists_or]
  · intro ys hys hvariant
    obtain ⟨more, hmore⟩ := exists_chooses ht hys
    exact hnumbers.same hmore hvariant.chosen_iff

def rack (ns id : String) (node : Int) : Vertex :=
  { key := ⟨ns, id⟩, nodeId := .int node }

/-- Two vertices with nodes. -/
def racks : Topology Unit :=
  provided.addVertices (.silent Unit)
    [some (.vertex (rack "n" "a" 1)), some (.vertex (rack "n" "b" 2))]

/-- A vertex that is not up to date counts as it is given, and one of another namespace not
at all. -/
theorem racks_chosen :
    let stale := [some (.vertex (rack "n" "b" 9)), some (.vertex (rack "m" "c" 5))]
    let given := some (.vertex (rack "n" "a" 1)) :: stale
    racks.Chooses given [1, 9] ∧
      racks.Chooses (given ++ [some (.edgeRef ⟨"n", "b"⟩), none]) [1, 9, 2] ∧
      ∀ contentType, ∃ before after, racks.select given contentType = .ok before ∧
        racks.select (some (.ref ⟨"n", "a"⟩) :: stale) contentType = .ok after ∧
          before.same after = true := by
  intro stale given
  have hbound : racks.BoundByIntegers := by
    intro entity hmem
    have hentries : racks.vertices.entries =
        [.vertex (rack "n" "a" 1), .vertex (rack "n" "b" 2)] := rfl
    rw [hentries, List.mem_cons, List.mem_singleton] at hmem
    rcases hmem with rfl | rfl
    · exact ⟨_, .inr ⟨1, rfl⟩, rfl⟩
    · exact ⟨_, .inr ⟨2, rfl⟩, rfl⟩
  have hnothing : Selectable [] := nofun
  have hstale : Selectable stale := .cons rfl (.cons rfl hnothing)
  have hgiven : Selectable given := .cons rfl hstale
  have hbare : Selectable [some (.edgeRef ⟨"n", "b"⟩), none] :=
    .cons_bare nofun (.cons_bare nofun hnothing)
  have hreferred : Selectable (some (.ref ⟨"n", "a"⟩) :: stale) := .cons_bare nofun hstale
  obtain ⟨numbers, hnumbers, hunion, hvariant⟩ := selections_are_sets hbound hgiven
  obtain ⟨more, both, -, hboth, -⟩ := hunion _ hbare
  obtain rfl : numbers = [1, 9] := hnumbers.eq_of_alarms rfl
  obtain rfl : both = [1, 9, 2] := hboth.eq_of_alarms rfl
  refine ⟨hnumbers, hboth, hvariant _ hreferred (.replaced stale ?_ nofun rfl)⟩
  decide

end Topology

end NetworkTopology
