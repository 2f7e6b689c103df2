import NetworkTopology.Proofs.Graph.Counting
import NetworkTopology.Proofs.Topology.RoundTrip

/-!
# What an adjacency matrix counts

The adjacency matrix of a topology looks the ends of an edge up by their ids alone,
whereas a vertex is known by namespace and id.  An end in another namespace may thus
pass for a stored vertex.  The matrix counts the edges between stored vertices exactly
if no edge has such an end.  Counts are natural numbers here; single-precision numbers
hold them as long as there are fewer than 2^24 edges.
-/

namespace NetworkTopology

variable {O : Type}

/-! ## Matrices as tables -/

namespace AdjacencyMatrix

variable {m : AdjacencyMatrix} {ids : List String} {value value' : String → String → Nat}

def cell? (m : AdjacencyMatrix) (i j : Nat) : Option Nat :=
  m.rows[i]?.bind fun row => row[j]?

/-- A square matrix with a row and a column for each id, in ascending order of the ids,
and with a given value for each pair of them. -/
structure Tabulates (m : AdjacencyMatrix) (ids : List String)
    (value : String → String → Nat) : Prop where
  ids_perm : m.ids.Perm ids
  increasing : m.ids.Pairwise (· < ·)
  height : m.rows.length = m.ids.length
  width : ∀ row ∈ m.rows, row.length = m.ids.length
  cell_eq : ∀ {i j : Nat} {a b : String}, m.ids[i]? = some a → m.ids[j]? = some b →
    m.cell? i j = some (value a b)

theorem tabulates_table (hids : ids.Nodup) (value : String → String → Nat) :
    Tabulates { ids := sortIds ids, rows := table (sortIds ids) value } ids value := by
  refine ⟨sortIds_perm ids, sortIds_increasing hids, List.length_map _, ?_, ?_⟩
  · intro row hrow
    obtain ⟨a, -, rfl⟩ := List.mem_map.mp hrow
    exact List.length_map _
  · intro i j a b ha hb
    have hrow : (table (sortIds ids) value)[i]? = some ((sortIds ids).map (value a)) := by
      rw [table, List.getElem?_map]
      exact congrArg _ ha
    have hcell : ((sortIds ids).map (value a))[j]? = some (value a b) := by
      rw [List.getElem?_map]
      exact congrArg _ hb
    rw [cell?, hrow]
    exact hcell

namespace Tabulates

theorem exists_place (h : m.Tabulates ids value) {id : String} (hid : id ∈ ids) :
    ∃ i : Nat, m.ids[i]? = some id :=
  List.mem_iff_getElem?.mp (h.ids_perm.mem_iff.mpr hid)

theorem value_eq (h : m.Tabulates ids value) (h' : m.Tabulates ids value') {a b : String}
    (ha : a ∈ ids) (hb : b ∈ ids) : value a b = value' a b := by
  obtain ⟨i, hi⟩ := h.exists_place ha
  obtain ⟨j, hj⟩ := h.exists_place hb
  have hcell := h.cell_eq hi hj
  rw [h'.cell_eq hi hj] at hcell
  exact (Option.some.inj hcell).symm

theorem of_value_eq (h : m.Tabulates ids value)
    (heq : ∀ a ∈ ids, ∀ b ∈ ids, value a b = value' a b) : m.Tabulates ids value' := by
  refine ⟨h.ids_perm, h.increasing, h.height, h.width, ?_⟩
  intro i j a b ha hb
  have hmem : ∀ {k : Nat} {id : String}, m.ids[k]? = some id → id ∈ ids :=
    fun hid => h.ids_perm.mem_iff.mp (List.mem_of_getElem? hid)
  rw [h.cell_eq ha hb, heq a (hmem ha) b (hmem hb)]

/-- Outside of the table there is no cell. -/
theorem cell?_eq_none (h : m.Tabulates ids value) {i j : Nat}
    (hout : m.ids[i]? = none ∨ m.ids[j]? = none) : m.cell? i j = none := by
  rw [cell?, Option.bind_eq_none_iff]
  intro row hrow
  rw [List.getElem?_eq_none_iff, h.width row (List.mem_of_getElem? hrow)]
  rcases hout with hi | hj
  · rw [List.getElem?_eq_none_iff, ← h.height, ← List.getElem?_eq_none_iff, hrow] at hi
    cases hi
  · exact List.getElem?_eq_none_iff.mp hj

theorem cell?_comm (h : m.Tabulates ids value) (hcomm : ∀ a b, value a b = value b a)
    (i j : Nat) : m.cell? i j = m.cell? j i := by
  cases hi : m.ids[i]? with
  | none => rw [h.cell?_eq_none (.inl hi), h.cell?_eq_none (.inr hi)]
  | some a =>
      cases hj : m.ids[j]? with
      | none => rw [h.cell?_eq_none (.inr hj), h.cell?_eq_none (.inl hj)]
      | some b => rw [h.cell_eq hi hj, h.cell_eq hj hi, hcomm]

end Tabulates

end AdjacencyMatrix

/-! ## Ends that are stored, and ends that pass for them -/

namespace Edge

variable {s : Store} {e : Edge} {a b : String}

/-- An edge both ends of which have ids of stored entities although one of them is not
stored: it lies in another namespace. -/
structure PosesIn (s : Store) (e : Edge) : Prop where
  source : s.containsId e.sourceKey.id = true
  target : s.containsId e.targetKey.id = true
  loose : ¬ e.AnchoredIn s

theorem endIds_of_ends (h : e.ends = s(⟨s.ns, a⟩, ⟨s.ns, b⟩)) : e.endIds = s(a, b) :=
  congrArg (Sym2.map Key.id) h

theorem AnchoredIn.ends_iff (h : e.AnchoredIn s) :
    e.ends = s(⟨s.ns, a⟩, ⟨s.ns, b⟩) ↔ e.endIds = s(a, b) := by
  have hkey : ∀ key : Key, s.contains key = true → (⟨s.ns, key.id⟩ : Key) = key := by
    intro key hkey
    rw [← (Store.contains_iff_containsId.mp hkey).1]
  constructor
  · exact endIds_of_ends
  · intro hids
    have hends := congrArg (Sym2.map fun id => (⟨s.ns, id⟩ : Key)) hids
    rw [endIds, Sym2.map_mk, Sym2.map_mk, hkey _ h.1, hkey _ h.2] at hends
    exact hends

theorem anchored_of_ends (ha : a ∈ s.ids) (hb : b ∈ s.ids)
    (h : e.ends = s(⟨s.ns, a⟩, ⟨s.ns, b⟩)) : e.AnchoredIn s := by
  have ha' : s.contains ⟨s.ns, a⟩ = true := Store.containsId_iff.mpr ha
  have hb' : s.contains ⟨s.ns, b⟩ = true := Store.containsId_iff.mpr hb
  rcases Sym2.eq_iff.mp h with ⟨hsource, htarget⟩ | ⟨hsource, htarget⟩
  · rw [AnchoredIn, hsource, htarget]
    exact ⟨ha', hb'⟩
  · rw [AnchoredIn, hsource, htarget]
    exact ⟨hb', ha'⟩

/-- Where no edge poses, the edges between two ids are those between the entities that
have them. -/
theorem countP_ends {es : List Edge} (h : ∀ e ∈ es, ¬ e.PosesIn s) (ha : a ∈ s.ids)
    (hb : b ∈ s.ids) :
    (es.countP fun e => e.endIds = s(a, b)) =
      es.countP fun e => e.ends = s(⟨s.ns, a⟩, ⟨s.ns, b⟩) := by
  apply List.countP_congr
  intro e he
  simp only [decide_eq_true_eq]
  constructor
  · intro hids
    have hmem : ∀ id ∈ e.endIds, s.containsId id = true := by
      intro id hid
      rw [hids, Sym2.mem_iff] at hid
      rw [Store.containsId_iff]
      rcases hid with rfl | rfl
      · exact ha
      · exact hb
    have hanchored : e.AnchoredIn s := by
      by_contra hloose
      exact h e he ⟨hmem _ (mem_endIds.mpr (.inl rfl)), hmem _ (mem_endIds.mpr (.inr rfl)), hloose⟩
    exact hanchored.ends_iff.mpr hids
  · exact endIds_of_ends

end Edge

/-- Where as many items have the stronger of two properties as have the weaker, those
that have the weaker have the stronger. -/
theorem of_countP_eq {α : Type} {p q : α → Bool} {items : List α}
    (h : ∀ item ∈ items, q item = true → p item = true)
    (heq : items.countP p = items.countP q) : ∀ item ∈ items, p item = true → q item = true := by
  have hfilter : items.filter q = (items.filter p).filter q := by
    rw [List.filter_filter]
    apply List.filter_congr
    intro item hitem
    rw [Bool.eq_iff_iff, Bool.and_eq_true]
    exact ⟨fun hq => ⟨hq, h item hitem hq⟩, And.left⟩
  rw [List.countP_eq_length_filter, List.countP_eq_length_filter, hfilter, eq_comm,
    List.length_filter_eq_length_iff] at heq
  intro item hitem hp
  exact heq item (List.mem_filter.mpr ⟨hitem, hp⟩)

/-! ## The adjacency matrix of a topology -/

namespace Topology

/-- The edges between the stored vertices of two ids, whichever comes first. -/
def joining (t : Topology O) (es : List Edge) (a b : String) : Nat :=
  es.countP fun e => e.ends = s(⟨t.ns, a⟩, ⟨t.ns, b⟩)

/-- Every adjacency matrix is symmetric and counts the edges between two ids.  These are
the edges between the stored vertices of these ids exactly if no edge has an end that
passes for one of them. -/
theorem adjacency_counts_ids {t : Topology O} {es : List Edge}
    (hes : t.edges.entries = es.map .edge) :
    ∃ m, t.adjacency = .ok m ∧ (∀ i j, m.cell? i j = m.cell? j i) ∧
      m.Tabulates t.vertices.ids (fun a b => es.countP fun e => e.endIds = s(a, b)) ∧
      (m.Tabulates t.vertices.ids (t.joining es) ↔ ∀ e ∈ es, ¬ e.PosesIn t.vertices) := by
  have hids := t.vertices.ids_nodup
  have htable := AdjacencyMatrix.tabulates_table hids fun a b =>
    es.countP fun e => e.endIds = s(a, b)
  rw [← AdjacencyMatrix.make_eq hids] at htable
  refine ⟨_, adjacency_of_entries hes, ?_, htable, ?_⟩
  · apply htable.cell?_comm
    intro a b
    rw [Sym2.eq_swap]
  · constructor
    · intro hjoining e he hposes
      have hsource := Store.containsId_iff.mp hposes.source
      have htarget := Store.containsId_iff.mp hposes.target
      have hcount := htable.value_eq hjoining hsource htarget
      have himplied : ∀ other ∈ es,
          decide (other.ends = s(⟨t.ns, e.sourceKey.id⟩, ⟨t.ns, e.targetKey.id⟩)) = true →
            decide (other.endIds = s(e.sourceKey.id, e.targetKey.id)) = true := by
        intro other _ hends
        rw [decide_eq_true_eq] at hends ⊢
        exact Edge.endIds_of_ends hends
      -- The edge has these ids, and as many edges have the keys: so it has them, too.
      have hends := of_countP_eq himplied hcount e he (decide_eq_true rfl)
      exact hposes.loose (Edge.anchored_of_ends hsource htarget (of_decide_eq_true hends))
    · intro hposes
      apply htable.of_value_eq
      intro a ha b hb
      exact Edge.countP_ends hposes ha hb

/-- Parallel edges and a loop are counted as they are. -/
theorem tangled_counts_joining :
    ∃ m, tangled.adjacency = .ok m ∧
      m.Tabulates tangled.vertices.ids (tangled.joining Edge.tangled) := by
  obtain ⟨m, hadjacency, -, -, hjoining⟩ := adjacency_counts_ids edges_tangled
  refine ⟨m, hadjacency, hjoining.mpr ?_⟩
  intro e he hposes
  exact hposes.loose (Edge.anchored_tangled e he)

/-- An edge from a vertex of another namespace, which has the id of a stored one. -/
def posed : Topology Unit :=
  ((provided.addVertices (.silent Unit) [some (.vertex { key := ⟨"n", "a"⟩ }),
    some (.vertex { key := ⟨"n", "b"⟩ })]).connect (.silent Unit) 0 (some ⟨"other", "a"⟩)
      (some ⟨"n", "b"⟩)).1

/-- It is counted between the stored vertices, though it joins none of them. -/
theorem posed_counts_foreign_end :
    posed.vertices.contains ⟨"other", "a"⟩ = false ∧
      ∃ (e : Edge) (m : AdjacencyMatrix), posed.edges.entries = [.edge e] ∧
        e.sourceKey = ⟨"other", "a"⟩ ∧ posed.adjacency = .ok m ∧
        m = { ids := ["a", "b"], rows := [[0, 1], [1, 0]] } ∧
        ¬ m.Tabulates posed.vertices.ids (posed.joining [e]) := by
  let e : Edge := .between ⟨"n", "e0"⟩ ⟨"other", "a"⟩ ⟨"n", "b"⟩
  let m : AdjacencyMatrix := { ids := ["a", "b"], rows := [[0, 1], [1, 0]] }
  have hentries : posed.edges.entries = [e].map .edge := by decide +kernel
  have hids : posed.vertices.ids = ["a", "b"] := by decide +kernel
  have hadjacency : posed.adjacency = .ok m := by
    have hsorted : sortIds ["a", "b"] = ["a", "b"] := List.mergeSort_of_pairwise (by decide)
    rw [adjacency_of_entries hentries, hids, AdjacencyMatrix.make, hsorted]
    decide +kernel
  refine ⟨by decide +kernel, e, m, hentries, rfl, hadjacency, rfl, ?_⟩
  intro h
  have hcell : m.cell? 0 1 = some (posed.joining [e] "a" "b") := h.cell_eq rfl rfl
  have hnone : posed.joining [e] "a" "b" = 0 := by decide +kernel
  rw [hnone] at hcell
  cases hcell

end Topology

end NetworkTopology
