import NetworkTopology.Proofs.IdGenerator.Cover
import NetworkTopology.Proofs.Store.Content
import NetworkTopology.Proofs.Topology.Quiet

/-!
# Edges numbered by a provider

If every stored edge bears a number below the counter of a provider, the
provider connects pairs of vertices by edges with the following numbers, which
go to the end of the store.  It fails only where a number is too long.
-/

namespace NetworkTopology

variable {O : Type}

/-- Edges between pairs of vertices, numbered in a row. -/
def Edge.row (ns stem : String) (number : Int) : List (Key × Key) → List Edge
  | [] => []
  | (source, target) :: pairs =>
      .between { ns, id := stem ++ Decimal.text number } source target ::
        Edge.row ns stem (number + 1) pairs

theorem Edge.exists_of_mem_row {ns stem : String} {number : Int} {pairs : List (Key × Key)}
    {e : Edge} (h : e ∈ Edge.row ns stem number pairs) :
    ∃ key, ∃ pair ∈ pairs, e = .between key pair.1 pair.2 := by
  induction pairs generalizing number with
  | nil => cases h
  | cons pair pairs ih =>
      rw [Edge.row] at h
      rcases List.mem_cons.mp h with rfl | hrest
      · exact ⟨_, pair, List.mem_cons_self, rfl⟩
      · obtain ⟨key, other, hother, heq⟩ := ih hrest
        exact ⟨key, other, List.mem_cons_of_mem pair hother, heq⟩

namespace Topology

abbrev edgeIds (t : Topology O) (p : Nat) : IdGenerator :=
  (t.provider p).edgeIds

/-- A provider has used up a number for an edge. -/
def countEdge (p : Nat) (t : Topology O) : Topology O :=
  t.setProvider p { t.provider p with edgeIds := (t.edgeIds p).advance 1 }

/-- Every stored edge bears a number below the counter of a provider. -/
def Numbered (p : Nat) (t : Topology O) : Prop :=
  (t.edgeIds p).Covers t.edges.ids

/-- From one topology to another, a provider has connected pairs of vertices, and
nothing else has changed but the observers. -/
structure Joined (p : Nat) (pairs : List (Key × Key)) (t t' : Topology O) : Prop where
  vertices_eq : t'.vertices = t.vertices
  entries_eq : t'.edges.entries = t.edges.entries ++
    (Edge.row t.ns (t.edgeIds p).stem (t.edgeIds p).upcoming pairs).map .edge
  providers_eq : t'.providers = t.providers.set p
    { t.provider p with edgeIds := (t.edgeIds p).advance pairs.length }

variable {p : Nat} {t t' t'' : Topology O}

theorem provider_of_set {provider : Provider} (hp : p < t.providers.length)
    (h : t'.providers = t.providers.set p provider) : t'.provider p = provider := by
  rw [Topology.provider, h, List.getElem?_set_self hp, Option.getD_some]

theorem edgeIds_of_providers_eq (h : t'.providers = t.providers) :
    t'.edgeIds p = t.edgeIds p := by
  unfold Topology.edgeIds Topology.provider
  rw [h]

theorem set_provider (hp : p < t.providers.length) :
    t.providers.set p (t.provider p) = t.providers := by
  rw [Topology.provider, List.getElem?_eq_getElem hp, Option.getD_some, List.set_getElem_self]

namespace Joined

theorem nil (hp : p < t.providers.length) : Joined p [] t t :=
  ⟨rfl, (List.append_nil _).symm, (set_provider hp).symm⟩

theorem edgeIds_eq {pairs : List (Key × Key)} (hp : p < t.providers.length)
    (h : Joined p pairs t t') : t'.edgeIds p = (t.edgeIds p).advance pairs.length := by
  rw [Topology.edgeIds, provider_of_set hp h.providers_eq]

theorem length_eq {pairs : List (Key × Key)} (h : Joined p pairs t t') :
    t'.providers.length = t.providers.length := by
  rw [h.providers_eq, List.length_set]

theorem cons {pair : Key × Key} {pairs : List (Key × Key)} (hp : p < t.providers.length)
    (h : Joined p [pair] t t') (h' : Joined p pairs t' t'') :
    Joined p (pair :: pairs) t t'' := by
  have hids := h.edgeIds_eq hp
  have hns : t'.ns = t.ns := congrArg Store.ns h.vertices_eq
  refine ⟨h'.vertices_eq.trans h.vertices_eq, ?_, ?_⟩
  · rw [h'.entries_eq, h.entries_eq, List.append_assoc, hids, hns, IdGenerator.advance_stem,
      IdGenerator.upcoming_advance]
    rfl
  · rw [h'.providers_eq, hids, provider_of_set hp h.providers_eq, h.providers_eq,
      List.set_set]
    exact congrArg
      (fun generator => t.providers.set p { t.provider p with edgeIds := generator })
      (IdGenerator.advance_one_advance _ _)

end Joined

/-! ## One connection -/

theorem free_of_not_mem_ids (t : Topology O) (id : String) (h : id ∉ t.edges.ids) :
    (Except.ok (t.edges.containsId id) : Except Fault Bool) = .ok false := by
  have hfree : t.edges.containsId id = false := by
    rw [← Bool.not_eq_true, Store.containsId_iff]
    exact h
  rw [hfree]

/-- Without one of its ends nothing is connected. -/
theorem connect_of_missing {source target : Option Key} (h : source = none ∨ target = none)
    (watch : Observation O) (p : Nat) (t : Topology O) :
    ∃ warning, t.connect watch p source target = (t.warn watch warning, .ok none) := by
  rcases h with rfl | rfl
  · cases target with
    | none => exact ⟨.noEnds, rfl⟩
    | some target => exact ⟨.noSource, rfl⟩
  · cases source with
    | none => exact ⟨.noEnds, rfl⟩
    | some source => exact ⟨.noTarget, rfl⟩

theorem connect_of_next_error {fault : Fault} (h : (t.nextEdgeId p).2 = .error fault)
    (watch : Observation O) (source target : Key) :
    t.connect watch p (some source) (some target) = ((t.nextEdgeId p).1, .error fault) := by
  have hnext : t.nextEdgeId p = ((t.nextEdgeId p).1, .error fault) := Prod.ext rfl h
  rw [connect, hnext]

theorem connect_of_next_ok {id : String} (h : (t.nextEdgeId p).2 = .ok id)
    (watch : Observation O) (source target : Key) :
    t.connect watch p (some source) (some target) =
      ((t.nextEdgeId p).1.addEdges watch [some (.edge (.between ⟨t.ns, id⟩ source target))],
        .ok (some (.between ⟨t.ns, id⟩ source target))) := by
  have hnext : t.nextEdgeId p = ((t.nextEdgeId p).1, .ok id) := Prod.ext rfl h
  rw [connect, hnext]
  rfl

theorem nextEdgeId_of_numbered (h : t.Numbered p)
    (writable : IntegerLiteral.Writable (t.edgeIds p).upcoming) :
    t.nextEdgeId p = (t.countEdge p,
      .ok ((t.edgeIds p).stem ++ Decimal.text (t.edgeIds p).upcoming)) := by
  rw [Topology.nextEdgeId, IdGenerator.Covers.next h writable t.free_of_not_mem_ids]
  rfl

theorem nextEdgeId_of_unwritable (h : t.Numbered p)
    (unwritable : ¬ IntegerLiteral.Writable (t.edgeIds p).upcoming) :
    t.nextEdgeId p = (t.countEdge p, .error .integerTooLong) := by
  rw [Topology.nextEdgeId, IdGenerator.Covers.next_of_unwritable h unwritable]
  rfl

theorem connect_of_unwritable (h : t.Numbered p)
    (unwritable : ¬ IntegerLiteral.Writable (t.edgeIds p).upcoming) (watch : Observation O)
    (source target : Key) :
    t.connect watch p (some source) (some target) = (t.countEdge p, .error .integerTooLong) := by
  rw [Topology.connect, nextEdgeId_of_unwritable h unwritable]

end Topology

namespace Observation.Quiet

open NetworkTopology.Topology

variable {watch : Observation O} {p : Nat} {t : Topology O}

/-- A new edge goes to the end under the upcoming number. -/
theorem connect_numbered (h : watch.Quiet) (hp : p < t.providers.length)
    (numbered : t.Numbered p) (writable : IntegerLiteral.Writable (t.edgeIds p).upcoming)
    (source target : Key) :
    ∃ t', t.connect watch p (some source) (some target) = (t', .ok (some (.between
        { ns := t.ns, id := (t.edgeIds p).stem ++ Decimal.text (t.edgeIds p).upcoming }
        source target))) ∧
      Joined p [(source, target)] t t' ∧ t'.Numbered p := by
  let counted := t.countEdge p
  let edge := Edge.between
    { ns := t.ns, id := (t.edgeIds p).stem ++ Decimal.text (t.edgeIds p).upcoming } source target
  have hnew : t.edges.contains edge.key = false := by
    have hfree := numbered.not_mem (Int.le_refl (t.edgeIds p).upcoming)
    rw [← Store.containsId_iff, Store.containsId, t.edges_ns, Bool.not_eq_true] at hfree
    exact hfree
  have hadd : (counted.addEdges watch [some (.edge edge)]).edges =
      (t.edges.add [some (.edge edge)]).store :=
    h.store_mutate .edges (.add [some (.edge edge)]) counted
  have hvertices : (counted.addEdges watch [some (.edge edge)]).vertices = t.vertices :=
    h.store_mutate_of_ne .edges .vertices (by decide) (.add [some (.edge edge)]) counted
  have hproviders : (counted.addEdges watch [some (.edge edge)]).providers =
      t.providers.set p { t.provider p with edgeIds := (t.edgeIds p).advance 1 } :=
    h.providers_mutate .edges (.add [some (.edge edge)]) counted
  have hentries : (counted.addEdges watch [some (.edge edge)]).edges.entries =
      t.edges.entries ++ [.edge edge] := by
    rw [hadd]
    exact Store.entries_add_singleton_of_new t.edges_ns.symm hnew
  refine ⟨counted.addEdges watch [some (.edge edge)], ?_, ⟨hvertices, hentries, hproviders⟩, ?_⟩
  · rw [Topology.connect, nextEdgeId_of_numbered numbered writable]
    rfl
  · rw [Topology.Numbered, Topology.edgeIds, provider_of_set hp hproviders, Store.ids, hentries,
      List.map_append]
    exact IdGenerator.Covers.union (IdGenerator.Covers.advance numbered 1)
      (IdGenerator.Covers.upcoming_covered _)

/-! ## Connections in a row -/

/-- Pairs are all connected, unless a number on the way is too long; then the
counter is left behind that number. -/
theorem connectAll_numbered (h : watch.Quiet) (hp : p < t.providers.length)
    (numbered : t.Numbered p) (hnat : 0 ≤ (t.edgeIds p).upcoming) (pairs : List (Key × Key)) :
    (∃ t', t.connectAll watch p pairs = (t', .ok ()) ∧ Joined p pairs t t' ∧ t'.Numbered p) ∨
    (∃ t' fault, t.connectAll watch p pairs = (t', .error fault) ∧
      ¬ IntegerLiteral.Writable (t'.edgeIds p).counter ∧
      ∃ k < pairs.length, ¬ IntegerLiteral.Writable ((t.edgeIds p).upcoming + (k : Int))) := by
  induction pairs generalizing t with
  | nil => exact .inl ⟨t, rfl, Joined.nil hp, numbered⟩
  | cons pair pairs ih =>
      obtain ⟨source, target⟩ := pair
      by_cases writable : IntegerLiteral.Writable (t.edgeIds p).upcoming
      · obtain ⟨t', hconnect, hjoined, hnumbered⟩ :=
          h.connect_numbered hp numbered writable source target
        have hids := hjoined.edgeIds_eq hp
        have hupcoming : (t'.edgeIds p).upcoming = (t.edgeIds p).upcoming + 1 := by
          rw [hids, IdGenerator.upcoming_advance]
          rfl
        have hp' : p < t'.providers.length := by
          rw [hjoined.length_eq]
          exact hp
        rw [Topology.connectAll, hconnect]
        rcases ih hp' hnumbered (by omega) with
          ⟨t'', hrest, hjoined', hnumbered'⟩ | ⟨t'', fault, hrest, hcounter, k, hk, hlong⟩
        · exact .inl ⟨t'', hrest, hjoined.cons hp hjoined', hnumbered'⟩
        · refine .inr ⟨t'', fault, hrest, hcounter, k + 1, Nat.succ_lt_succ hk, ?_⟩
          rw [hupcoming] at hlong
          have hsum : (t.edgeIds p).upcoming + ((k + 1 : Nat) : Int) =
              (t.edgeIds p).upcoming + 1 + (k : Int) := by omega
          rw [hsum]
          exact hlong
      · have hconnect : t.connectAll watch p ((source, target) :: pairs) =
            (t.countEdge p, .error .integerTooLong) := by
          rw [Topology.connectAll, connect_of_unwritable numbered writable]
        refine .inr ⟨_, _, hconnect, ?_, 0, Nat.succ_pos _, ?_⟩
        · rw [Topology.edgeIds, provider_of_set hp rfl]
          change ¬ IntegerLiteral.Writable ((t.edgeIds p).upcoming + 1)
          unfold IntegerLiteral.Writable at writable ⊢
          omega
        · rw [Int.natCast_zero, Int.add_zero]
          exact writable

end Observation.Quiet

end NetworkTopology
