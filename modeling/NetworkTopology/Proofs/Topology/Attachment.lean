import NetworkTopology.Proofs.IdGenerator.LeastFree
import NetworkTopology.Proofs.Topology.Connection
import NetworkTopology.Proofs.Topology.Removal

/-!
# Connectors told apart by their ids

The id of a connector is the id of its vertex and that of its edge with hyphens around
them, and both may hold hyphens themselves.  Where the edges are numbered behind one
stem, the id nevertheless tells which vertex and which number it was made of, because
a number holds no hyphen.
-/

namespace NetworkTopology

variable {O : Type}

/-! ## Ids of connectors -/

namespace Connector

/-- What begins with a mark does not come back later in itself before something that
holds no mark: the mark that it begins with would have to stand in front. -/
theorem eq_nil_of_shifted {mark : Char} {front rest back : List Char}
    (h : front ++ mark :: rest = mark :: rest ++ back) (hback : mark ∉ back) : back = [] := by
  have hcount := congrArg (List.count mark) h
  have hlength := congrArg List.length h
  rw [List.count_append, List.count_append, List.count_eq_zero_of_not_mem hback] at hcount
  rw [List.length_append, List.length_append] at hlength
  cases front with
  | nil => exact List.length_eq_zero_iff.mp (by rw [List.length_nil] at hlength; omega)
  | cons c front =>
      obtain ⟨rfl, -⟩ := List.cons.inj h
      rw [List.count_cons_self] at hcount
      omega

/-- What stands behind two texts that end alike, but for it, is nothing. -/
theorem eq_nil_of_append_eq {mark : Char} {front front' rest back : List Char}
    (h : front ++ mark :: rest = front' ++ mark :: rest ++ back) (hback : mark ∉ back) :
    back = [] := by
  rw [List.append_assoc] at h
  rcases List.append_eq_append_iff.mp h with ⟨between, -, hshifted⟩ | ⟨between, -, hshifted⟩
  · have hlength := congrArg List.length hshifted
    simp only [List.length_append] at hlength
    exact List.length_eq_zero_iff.mp (by omega)
  · exact eq_nil_of_shifted hshifted.symm hback

/-- A text that ends in a mark, a text and a number shows what stands before them and
which number it is. -/
theorem eq_of_numbered_eq {mark : Char} {front front' rest digits digits' : List Char}
    (h : front ++ mark :: rest ++ digits = front' ++ mark :: rest ++ digits')
    (hdigits : mark ∉ digits) (hdigits' : mark ∉ digits') :
    front = front' ∧ digits = digits' := by
  rcases List.append_eq_append_iff.mp h with ⟨between, hfront, hback⟩ | ⟨between, hfront, hback⟩
  · have hmark : mark ∉ between := fun hmem => hdigits (hback ▸ List.mem_append_left _ hmem)
    obtain rfl := eq_nil_of_append_eq hfront hmark
    rw [List.append_nil] at hfront
    exact ⟨(List.append_cancel_right hfront).symm, hback⟩
  · have hmark : mark ∉ between := fun hmem => hdigits' (hback ▸ List.mem_append_left _ hmem)
    obtain rfl := eq_nil_of_append_eq hfront hmark
    rw [List.append_nil] at hfront
    exact ⟨List.append_cancel_right hfront, hback.symm⟩

theorem toList_idFor (vertexId stem : String) (n : Nat) :
    (idFor vertexId (stem ++ Decimal.text n)).toList =
      vertexId.toList ++ '-' :: stem.toList ++ Decimal.natural n ++ "-connector".toList := by
  have hmark : "-".toList = ['-'] := rfl
  simp only [idFor, String.toList_append, Decimal.text, String.toList_ofList, hmark,
    Decimal.integer_natCast, List.append_assoc, List.cons_append, List.nil_append]

/-- The id of a connector shows the id of the vertex and the number of the edge. -/
theorem idFor_numbered_eq_iff {stem a b : String} {m n : Nat} :
    idFor a (stem ++ Decimal.text m) = idFor b (stem ++ Decimal.text n) ↔ a = b ∧ m = n := by
  constructor
  · intro h
    have hlist := congrArg String.toList h
    rw [toList_idFor, toList_idFor] at hlist
    obtain ⟨hvertex, hnumber⟩ := eq_of_numbered_eq (List.append_cancel_right hlist)
      (Decimal.minus_not_mem_natural m) (Decimal.minus_not_mem_natural n)
    exact ⟨String.toList_inj.mp hvertex, Decimal.natural_injective hnumber⟩
  · rintro ⟨rfl, rfl⟩
    rfl

end Connector

/-! ## Edges made by a provider -/

/-- The ends of an edge. -/
inductive Edge.End where
  | source
  | target
  deriving DecidableEq

/-- The connector at an end. -/
def Edge.connector (e : Edge) : Edge.End → Connector
  | .source => e.source
  | .target => e.target

/-- The counter of which a provider makes its next edge id.  Once that is done, the
counter has moved on by one. -/
def Topology.edgeNumber (p : Nat) (t : Topology O) : Int :=
  ((t.nextEdgeId p).1.edgeIds p).counter - 1

/-- An edge of a namespace that a provider of a stem has made: it has connected two
vertices by it, and its counter was not negative. -/
def Edge.MadeBy (stem ns : String) (e : Edge) : Prop :=
  ∃ (O : Type) (watch : Observation O) (p : Nat) (t : Topology O) (source target : Key),
    p < t.providers.length ∧ t.ns = ns ∧ (t.edgeIds p).stem = stem ∧ 0 ≤ t.edgeNumber p ∧
      (t.connect watch p (some source) (some target)).2 = .ok (some e)

namespace Topology

variable {watch : Observation O} {p : Nat} {t : Topology O}

theorem edgeIds_nextEdgeId (hp : p < t.providers.length) : (t.nextEdgeId p).1.edgeIds p =
    ((t.edgeIds p).next (.ok t.edges.ids) fun id => .ok (t.edges.containsId id)).1 := by
  rw [edgeIds, provider_of_set hp rfl]
  rfl

/-- An id that is given out bears the number that the counter has come to. -/
theorem nextEdgeId_eq_ok (hp : p < t.providers.length) {id : String}
    (h : (t.nextEdgeId p).2 = .ok id) :
    IntegerLiteral.Writable (t.edgeNumber p) ∧
      id = (t.edgeIds p).stem ++ Decimal.text (t.edgeNumber p) := by
  obtain ⟨m, hwritable, rfl, -, -, hafter⟩ := IdGenerator.next_ok h
  have hnumber : t.edgeNumber p = m := by
    rw [edgeNumber, edgeIds_nextEdgeId hp, hafter]
    exact Int.add_sub_cancel m 1
  rw [hnumber]
  exact ⟨hwritable, rfl⟩

/-- A provider whose edges it has made itself, with a counter that is not negative. -/
structure Own (p : Nat) (t : Topology O) : Prop where
  provided : p < t.providers.length
  made : ∃ es : List Edge, t.edges.entries = es.map .edge ∧
    ∀ e ∈ es, e.MadeBy (t.edgeIds p).stem t.ns
  counted : (t.edgeIds p).initialized = true → 0 ≤ (t.edgeIds p).counter

end Topology

/-- An edge that was made bears a natural number behind the stem. -/
theorem Edge.MadeBy.exists_between {stem ns : String} {e : Edge} (h : e.MadeBy stem ns) :
    ∃ (n : Nat) (source target : Key), IntegerLiteral.Writable n ∧
      e = .between ⟨ns, stem ++ Decimal.text n⟩ source target := by
  obtain ⟨O, watch, p, t, source, target, hp, rfl, rfl, hnumber, h⟩ := h
  cases hid : (t.nextEdgeId p).2 with
  | error fault =>
      rw [Topology.connect_of_next_error hid] at h
      cases h
  | ok id =>
      rw [Topology.connect_of_next_ok hid] at h
      obtain rfl := Option.some.inj (Except.ok.inj h)
      obtain ⟨hwritable, rfl⟩ := Topology.nextEdgeId_eq_ok hp hid
      obtain ⟨n, hn⟩ := Int.eq_ofNat_of_zero_le hnumber
      rw [hn] at hwritable ⊢
      exact ⟨n, source, target, hwritable, rfl⟩

namespace IdGenerator

variable {g : IdGenerator} {ids : List String}

theorem start_nonneg {stem : String} (h : ∀ id ∈ ids, 0 ≤ suffix stem id) :
    0 ≤ start stem ids := by
  by_cases hex : ∃ id ∈ ids, hasStem stem id = true
  · obtain ⟨id, hid, hstem⟩ := hex
    have hlt := suffix_lt_start hid hstem
    have hle := h id hid
    omega
  · rw [start_of_no_stem]
    intro id hid
    rw [← Bool.not_eq_true]
    exact fun hstem => hex ⟨id, hid, hstem⟩

/-- A counter that is not negative, or starts past numbers that are not, moves on to a
positive one. -/
theorem counter_next_pos (hcounted : g.initialized = true → 0 ≤ g.counter)
    (hids : ∀ id ∈ ids, 0 ≤ suffix g.stem id) (taken : String → Except Fault Bool) :
    0 < (g.next (.ok ids) taken).1.counter := by
  obtain ⟨primed, hprime, hnonneg⟩ :
      ∃ primed, g.prime (.ok ids) = .ok primed ∧ 0 ≤ primed.counter := by
    cases hinit : g.initialized with
    | true => exact ⟨g, prime_of_initialized hinit, hcounted hinit⟩
    | false => exact ⟨_, prime_of_content hinit, start_nonneg hids⟩
  have hle := le_search primed.stem taken primed.counter
  rw [next_of_prime hprime]
  change 0 < (search primed.stem taken primed.counter).1 + 1
  omega

end IdGenerator

/-! ## Connections by one provider -/

namespace Topology.Own

variable {watch : Observation O} {p : Nat} {t : Topology O}

theorem of_no_edges (hp : p < t.providers.length) (hedges : t.edges.entries = [])
    (hnew : (t.edgeIds p).initialized = false) : t.Own p := by
  refine ⟨hp, ⟨[], hedges, fun e he => absurd he List.not_mem_nil⟩, ?_⟩
  intro hinit
  rw [hnew] at hinit
  cases hinit

theorem suffix_nonneg (h : t.Own p) : ∀ id ∈ t.edges.ids,
    0 ≤ IdGenerator.suffix (t.edgeIds p).stem id := by
  obtain ⟨es, hes, hmade⟩ := h.made
  intro id hid
  rw [Store.ids, hes, List.map_map] at hid
  obtain ⟨e, he, rfl⟩ := List.mem_map.mp hid
  obtain ⟨n, source, target, hwritable, rfl⟩ := (hmade e he).exists_between
  have hsuffix : IdGenerator.suffix (t.edgeIds p).stem
      ((t.edgeIds p).stem ++ Decimal.text n) = n := IdGenerator.suffix_append_text hwritable
  change 0 ≤ IdGenerator.suffix _ ((t.edgeIds p).stem ++ Decimal.text n)
  rw [hsuffix]
  exact Int.natCast_nonneg n

theorem edgeNumber_nonneg (h : t.Own p) : 0 ≤ t.edgeNumber p := by
  have hpos := IdGenerator.counter_next_pos h.counted h.suffix_nonneg
    fun id => .ok (t.edges.containsId id)
  rw [edgeNumber, edgeIds_nextEdgeId h.provided]
  omega

theorem nextEdgeId (h : t.Own p) : (t.nextEdgeId p).1.Own p := by
  obtain ⟨es, hes, hmade⟩ := h.made
  refine ⟨Nat.lt_of_lt_of_eq h.provided List.length_set.symm, ⟨es, hes, ?_⟩, ?_⟩
  · rw [edgeIds_nextEdgeId h.provided, IdGenerator.next_stem]
    exact hmade
  · intro _
    have hnumber := h.edgeNumber_nonneg
    rw [edgeNumber] at hnumber
    omega

/-- A provider that adds an edge which it has made itself still has no others. -/
theorem addEdges (h : t.Own p) (hquiet : watch.Quiet) {e : Edge}
    (hmade : e.MadeBy (t.edgeIds p).stem t.ns) (hown : e.key.ns = t.ns)
    (hnew : e.key.id ∉ t.edges.ids) : (t.addEdges watch [some (.edge e)]).Own p := by
  obtain ⟨es, hes, hes'⟩ := h.made
  obtain ⟨stored, happended, hadd⟩ := addEdges_of_new hown hnew watch
  have hproviders : (t.addEdges watch [some (.edge e)]).providers = t.providers :=
    hquiet.providers_mutate .edges (.add [some (.edge e)]) t
  have hvertices : (t.addEdges watch [some (.edge e)]).vertices = t.vertices :=
    hquiet.store_mutate_of_ne .edges .vertices (by decide) (.add [some (.edge e)]) t
  have hentries : (t.addEdges watch [some (.edge e)]).edges.entries =
      (es ++ [e]).map .edge := by
    obtain ⟨o, hon⟩ := hquiet .edges { ns := t.ns, added := [.edge e] } stored
    change watch.onEdges _ stored = _ at hon
    rw [hadd, hon, List.map_append, ← hes]
    exact happended.entries_eq
  have hids := edgeIds_of_providers_eq hproviders (p := p)
  refine ⟨hproviders ▸ h.provided, ⟨es ++ [e], hentries, ?_⟩, ?_⟩
  · rw [hids, ns, hvertices]
    intro made hmem
    rcases List.mem_append.mp hmem with hmem | hmem
    · exact hes' made hmem
    · exact List.mem_singleton.mp hmem ▸ hmade
  · rw [hids]
    exact h.counted

/-- A connection, also one that fails, leaves a provider with edges of its own. -/
theorem connect (h : t.Own p) (hquiet : watch.Quiet) (source target : Key) :
    (t.connect watch p (some source) (some target)).1.Own p := by
  have hcounted := h.nextEdgeId
  cases hid : (t.nextEdgeId p).2 with
  | error fault =>
      rw [connect_of_next_error hid]
      exact hcounted
  | ok id =>
      have hmade : (Edge.between ⟨t.ns, id⟩ source target).MadeBy (t.edgeIds p).stem t.ns :=
        ⟨O, watch, p, t, source, target, h.provided, rfl, rfl, h.edgeNumber_nonneg,
          by rw [connect_of_next_ok hid]⟩
      rw [connect_of_next_ok hid]
      refine hcounted.addEdges hquiet ?_ rfl (not_mem_of_nextEdgeId (t := t) hid)
      rw [edgeIds_nextEdgeId h.provided, IdGenerator.next_stem]
      exact hmade

/-- A provider that connects pair after pair has edges of its own only. -/
theorem connectAll (h : t.Own p) (hquiet : watch.Quiet) (pairs : List (Key × Key)) :
    (t.connectAll watch p pairs).1.Own p := by
  induction pairs generalizing t with
  | nil => exact h
  | cons pair pairs ih =>
      obtain ⟨source, target⟩ := pair
      have hconnected := h.connect hquiet source target
      rw [Topology.connectAll]
      split
      · next fault heq =>
          rw [heq] at hconnected
          exact hconnected
      · next heq =>
          rw [heq] at hconnected
          exact ih hconnected

end Topology.Own

/-! ## Connectors of one provider -/

theorem Edge.vertex_connector_between (key source target : Key) (i : Edge.End) :
    ((Edge.between key source target).connector i).key =
      (Connector.forEdge ((Edge.between key source target).connector i).vertex key.id).key := by
  cases i <;> rfl

/-- For edges of one stem, the id of a connector says which vertex it is for and which
number the edge has.  Where a provider has made all edges itself, with a counter that is
not negative, two connectors bear one id only if they belong to one edge, and are the two
ends of it only if that edge connects a vertex with one of the same id. -/
theorem connector_id_tells_attachment (stem : String) :
    (∀ (v w : Key) (m n : Nat),
      (Connector.forEdge v (stem ++ Decimal.text m)).key.id =
        (Connector.forEdge w (stem ++ Decimal.text n)).key.id ↔ v.id = w.id ∧ m = n) ∧
    ∀ (t : Topology O) (es : List Edge), t.edges.entries = es.map .edge →
      (∀ e ∈ es, e.MadeBy stem t.ns) → ∀ e ∈ es, ∀ e' ∈ es, ∀ i j : Edge.End,
        (e.connector i).key.id = (e'.connector j).key.id ↔
          e = e' ∧ (i = j ∨ e.sourceKey.id = e.targetKey.id) := by
  refine ⟨fun v w m n => Connector.idFor_numbered_eq_iff, ?_⟩
  intro t es hes hmade e he e' he' i j
  obtain ⟨m, source, target, -, heq⟩ := (hmade e he).exists_between
  obtain ⟨n, source', target', -, heq'⟩ := (hmade e' he').exists_between
  have hvertex : ∀ e : Edge, (e.connector i).vertex.id = (e.connector j).vertex.id ↔
      i = j ∨ e.sourceKey.id = e.targetKey.id := by
    intro e
    cases i <;> cases j <;> simp [Edge.connector, Edge.sourceKey, Edge.targetKey, eq_comm]
  have hsame : (e.connector i).key.id = (e'.connector j).key.id ↔
      (e.connector i).vertex.id = (e'.connector j).vertex.id ∧ m = n := by
    rw [heq, heq', Edge.vertex_connector_between, Edge.vertex_connector_between]
    exact Connector.idFor_numbered_eq_iff
  rw [hsame]
  constructor
  · rintro ⟨hid, rfl⟩
    have hkey : e.key = e'.key := by
      rw [heq, heq']
      rfl
    obtain rfl := Store.edge_eq_of_key_eq hes he he' hkey
    exact ⟨rfl, (hvertex e).mp hid⟩
  · rintro ⟨rfl, hends⟩
    have hid : stem ++ Decimal.text m = stem ++ Decimal.text n :=
      congrArg (fun e : Edge => e.key.id) (heq.symm.trans heq')
    exact ⟨(hvertex e).mpr hends, Int.ofNat.inj (Decimal.append_text_inj.mp hid)⟩

/-- A provider that has connected a vertex with itself and then with another one, whose
id is what stands behind the first one's in the ids of connectors. -/
def Topology.looped : Topology Unit :=
  ((Topology.blank
    [{ vertexIds := { stem := "v" }, edgeIds := { stem := "e-1" } }] ()).connectAll
      (.silent Unit) 0 [(⟨"n", "a"⟩, ⟨"n", "a"⟩), (⟨"n", "a"⟩, ⟨"n", "a-e-10"⟩)]).1

/-- Of the four connectors, those of the loop bear one id. -/
theorem looped_connectors :
    let loop := Edge.between ⟨"n", "e-10"⟩ ⟨"n", "a"⟩ ⟨"n", "a"⟩
    let link := Edge.between ⟨"n", "e-11"⟩ ⟨"n", "a"⟩ ⟨"n", "a-e-10"⟩
    Topology.looped.edges.entries = [loop, link].map .edge ∧
      (∀ e ∈ [loop, link], e.MadeBy "e-1" Topology.looped.ns) ∧
      loop.source.key.id = loop.target.key.id ∧ link.source.key.id ≠ link.target.key.id ∧
      loop.target.key.id ≠ link.source.key.id := by
  intro loop link
  have hblank : (Topology.blank
      [{ vertexIds := { stem := "v" }, edgeIds := { stem := "e-1" } }] ()).Own 0 :=
    .of_no_edges (by decide) rfl rfl
  obtain ⟨-, ⟨es, hes, hmade⟩, -⟩ := hblank.connectAll (Observation.silent_quiet Unit)
    [(⟨"n", "a"⟩, ⟨"n", "a"⟩), (⟨"n", "a"⟩, ⟨"n", "a-e-10"⟩)]
  have hentries : Topology.looped.edges.entries = [loop, link].map .edge := by decide +kernel
  have hstem : (Topology.looped.edgeIds 0).stem = "e-1" := by decide +kernel
  obtain rfl : es = [loop, link] :=
    List.map_injective_iff.mpr (fun _ _ h => Entity.edge.inj h) (hes.symm.trans hentries)
  have hmade' : ∀ e ∈ [loop, link], e.MadeBy "e-1" Topology.looped.ns := hstem ▸ hmade
  have hloop : loop ∈ [loop, link] := List.mem_cons_self
  have hlink : link ∈ [loop, link] := List.mem_cons_of_mem _ List.mem_cons_self
  have htells := (connector_id_tells_attachment "e-1").2 Topology.looped _ hentries hmade'
  refine ⟨hentries, hmade', ?_, ?_, ?_⟩
  · exact (htells loop hloop loop hloop .source .target).mpr ⟨rfl, .inr rfl⟩
  · intro h
    exact absurd ((htells link hlink link hlink .source .target).mp h).2 (by decide)
  · intro h
    exact absurd ((htells loop hloop link hlink .target .source).mp h).1 (by decide)

end NetworkTopology
