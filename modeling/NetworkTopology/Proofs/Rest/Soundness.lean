import NetworkTopology.Proofs.Rest.Serving
import NetworkTopology.Proofs.Topology.Sound

/-!
# What requests preserve

However requests follow each other, the topology stays sound, a request that fails
leaves everything as it was, and no id is given out that has been in use since the
content was last replaced.
-/

namespace NetworkTopology.Rest

variable {O : Type}

open NetworkTopology.Topology

/-! ## One request -/

/-- Nothing has changed but the observers. -/
structure Untouched (t t' : Topology O) : Prop where
  vertices_eq : t'.vertices = t.vertices
  edges_eq : t'.edges = t.edges
  providers_eq : t'.providers = t.providers

/-- What a request to a provider preserves. -/
structure Kept (p : Nat) (request : Request) (t : Topology O)
    (served : Topology O × Except Fault Response) : Prop where
  sound : served.1.Sound p
  ns_eq : served.1.ns = t.ns
  stem_eq : (served.1.edgeIds p).stem = (t.edgeIds p).stem
  untouched : Failed served.2 → Untouched t served.1
  counted : ¬ (request.Rebuilds ∧ ¬ Failed served.2) →
    ∃ n, served.1.edgeIds p = (t.edgeIds p).advance n
  created : ∀ id, created? served.2 = some id →
    id = (t.edgeIds p).stem ++ Decimal.text (t.edgeIds p).upcoming

theorem writable_upcoming {g : IdGenerator} (h : IntegerLiteral.Writable g.counter) :
    IntegerLiteral.Writable g.upcoming := by
  unfold IdGenerator.upcoming
  split
  · exact h
  · exact IntegerLiteral.writable_of_lt_ten (by decide)

section

variable {p : Nat} {request : Request} {t t' : Topology O}

theorem Untouched.refl (t : Topology O) : Untouched t t := ⟨rfl, rfl, rfl⟩

theorem Untouched.edgeIds_eq (h : Untouched t t') : t'.edgeIds p = t.edgeIds p :=
  edgeIds_of_providers_eq h.providers_eq

theorem Untouched.sound (h : Untouched t t') (hsound : t.Sound p) : t'.Sound p := by
  obtain ⟨es, hes, hanchored⟩ := hsound.anchored
  refine ⟨?_, ⟨es, ?_, ?_⟩, ?_⟩
  · rw [h.providers_eq]
    exact hsound.provided
  · rw [h.edges_eq]
    exact hes
  · rw [h.vertices_eq]
    exact hanchored
  · rw [Numbered, h.edgeIds_eq, h.edges_eq]
    exact hsound.numbered

/-- A request that does nothing keeps everything, however it is answered, unless
with something created. -/
theorem Untouched.kept (h : Untouched t t') (hsound : t.Sound p)
    {outcome : Except Fault Response} (houtcome : created? outcome = none) :
    Kept p request t (t', outcome) := by
  refine ⟨h.sound hsound, congrArg Store.ns h.vertices_eq,
    congrArg IdGenerator.stem h.edgeIds_eq, fun _ => h, fun _ => ⟨0, h.edgeIds_eq⟩, ?_⟩
  intro id hid
  change created? outcome = some id at hid
  rw [houtcome] at hid
  cases hid

theorem kept_of_document {status : Nat} {body : Json} (hstatus : status < 400)
    (hsound : t'.Sound p) (hns : t'.ns = t.ns)
    (hstem : (t'.edgeIds p).stem = (t.edgeIds p).stem)
    (hcounted : ¬ request.Rebuilds → ∃ n, t'.edgeIds p = (t.edgeIds p).advance n)
    (hcreated : ∀ id, created? (.ok (.document status body)) = some id →
      id = (t.edgeIds p).stem ++ Decimal.text (t.edgeIds p).upcoming) :
    Kept p request t (t', .ok (.document status body)) := by
  have hserved : ¬ Failed (.ok (.document status body)) := by
    intro hfailed
    have hstatus' : 400 ≤ status := hfailed _ rfl
    omega
  refine ⟨hsound, hns, hstem, fun hfailed => absurd hfailed hserved, ?_, hcreated⟩
  intro hnot
  exact hcounted fun hrebuilds => hnot ⟨hrebuilds, hserved⟩

end

/-! ## Requests that change something -/

section

variable {watch : Observation O} {p : Nat} {updated : O → Bool}
  {loaded : Except Fault Graph} {request : Request} {t : Topology O}

theorem kept_delete (hquiet : watch.Quiet) (h : t.Sound p) (id : String) :
    Kept p request t
      (((Api.ofLoader watch p updated loaded).delete id t).1,
        .ok ((Api.ofLoader watch p updated loaded).delete id t).2) := by
  obtain ⟨es, hes, -⟩ := h.anchored
  by_cases hcontains : t.vertices.contains { ns := t.ns, id } = true
  · have hwatched : (Api.ofLoader watch p updated loaded).watch.Quiet := hquiet
    obtain ⟨t', hdetached, heq⟩ := Api.delete_of_contains hwatched hes hcontains
    rw [heq]
    have hids : t'.edgeIds p = t.edgeIds p := edgeIds_of_providers_eq hdetached.providers_eq
    have hns : t'.ns = t.ns := by
      rw [Topology.ns, hdetached.vertices_eq, Store.remove_ns]
      rfl
    exact kept_of_document (by decide) (h.detached hes hdetached) hns
      (congrArg IdGenerator.stem hids) (fun _ => ⟨0, hids⟩) (fun _ hcreated => by cases hcreated)
  · rw [Api.delete_of_absent (Bool.eq_false_iff.mpr hcontains)]
    exact (Untouched.refl t).kept h rfl

theorem contains_of_lookUp {name : Json} {key : Key} (h : lookUp t name = .ok (some key)) :
    t.vertices.contains key = true := by
  cases name with
  | str id =>
      simp only [lookUp] at h
      split at h
      · rename_i hcontains
        cases h
        exact hcontains
      · cases h
  | arr items => cases h
  | obj fields => cases h
  | null => cases h
  | bool value => cases h
  | int value => cases h
  | float value => cases h

/-- The ends of a connection are stored, as far as they are named. -/
theorem contains_of_ends {body : Json} {source target : Option Key}
    (h : Api.ends body t = .ok (source, target)) :
    (∀ key, source = some key → t.vertices.contains key = true) ∧
      ∀ key, target = some key → t.vertices.contains key = true := by
  obtain ⟨sourceName, -, h⟩ := Result.of_bind_ok h
  obtain ⟨foundSource, hsource, h⟩ := Result.of_bind_ok h
  obtain ⟨targetName, -, h⟩ := Result.of_bind_ok h
  obtain ⟨foundTarget, htarget, h⟩ := Result.of_bind_ok h
  cases h
  refine ⟨?_, ?_⟩
  · rintro key rfl
    exact contains_of_lookUp hsource
  · rintro key rfl
    exact contains_of_lookUp htarget

/-- A connection succeeds if both ends are named, under the upcoming number. -/
theorem kept_connect (hquiet : watch.Quiet) (h : t.Sound p)
    (hwritable : IntegerLiteral.Writable (t.edgeIds p).counter) (body : Json) :
    Kept p request t
      (((Api.ofLoader watch p updated loaded).connect body t).1,
        .ok ((Api.ofLoader watch p updated loaded).connect body t).2) := by
  cases hends : Api.ends body t with
  | error fault =>
      simp only [Api.connect, hends]
      exact (Untouched.refl t).kept h rfl
  | ok ends =>
      obtain ⟨source, target⟩ := ends
      obtain ⟨hsource, htarget⟩ := contains_of_ends hends
      simp only [Api.connect, hends, Api.ofLoader]
      by_cases hmissing : source = none ∨ target = none
      · obtain ⟨warning, hconnect⟩ := connect_of_missing hmissing watch p t
        have huntouched : Untouched t (t.warn watch warning) := ⟨rfl, rfl, rfl⟩
        rw [hconnect]
        exact huntouched.kept h rfl
      · cases source with
        | none => exact absurd (.inl rfl) hmissing
        | some source =>
          cases target with
          | none => exact absurd (.inr rfl) hmissing
          | some target =>
              obtain ⟨t', hconnect, hjoined, hnumbered⟩ := hquiet.connect_numbered h.provided
                h.numbered (writable_upcoming hwritable) source target
              rw [hconnect]
              have hids := hjoined.edgeIds_eq h.provided
              have hsound : t'.Sound p := by
                refine h.joined ?_ hjoined hnumbered
                intro pair hpair
                rw [List.mem_singleton.mp hpair]
                exact ⟨hsource source rfl, htarget target rfl⟩
              refine kept_of_document (by decide) hsound (congrArg Store.ns hjoined.vertices_eq)
                ?_ (fun _ => ⟨1, hids⟩) ?_
              · rw [hids, IdGenerator.advance_stem]
              · intro id hid
                have hedge := hid.symm.trans (Response.created?_edgeDocument _)
                exact Option.some.inj hedge

/-- A refresh succeeds from whatever graph can be converted, as long as numbers are
not too long, and otherwise does nothing. -/
theorem kept_refresh (hquiet : watch.Quiet) (h : t.Sound p)
    (hclosed : ∀ g, loaded = .ok g → g.Closed) (body : Json)
    (htarget : request.target? = some ("POST", .refresh))
    (hwritable : IntegerLiteral.Writable
      ((((Api.ofLoader watch p updated loaded).post .refresh body t).1).edgeIds p).counter) :
    Kept p request t
      (((Api.ofLoader watch p updated loaded).post .refresh body t).1,
        .ok ((Api.ofLoader watch p updated loaded).post .refresh body t).2) := by
  rcases unusable_or_exists_vertices t.ns loaded with hunusable | ⟨g, vertices, rfl, hvertices⟩
  · obtain ⟨fault, hfault⟩ := refresh_of_unusable hunusable p t
    simp only [Api.post, Api.ofLoader, hfault watch]
    exact (Untouched.refl t).kept h rfl
  · rcases hquiet.refresh_of_vertices h.provided hvertices with
      ⟨t', hrefresh, hrebuilt⟩ | ⟨t', fault, hrefresh, hlong, -⟩
    · simp only [Api.post, Api.ofLoader, hrefresh]
      have hns : t'.ns = t.ns := by
        rw [Topology.ns, hrebuilt.vertices_eq, Store.add_ns, Store.clear_ns]
        rfl
      have hstem : (t'.edgeIds p).stem = (t.edgeIds p).stem := by
        rw [Topology.edgeIds, provider_of_set h.provided hrebuilt.providers_eq]
        exact IdGenerator.advance_stem _ _
      exact kept_of_document (by decide)
        (sound_of_rebuilt h.provided (hclosed g rfl) hvertices hrebuilt) hns hstem
        (fun hnot => absurd (.inl htarget) hnot) (fun _ hcreated => by cases hcreated)
    · simp only [Api.post, Api.ofLoader, hrefresh] at hwritable
      exact absurd hwritable hlong

theorem kept_reset (hquiet : watch.Quiet) (h : t.Sound p) (body : Json)
    (htarget : request.target? = some ("POST", .reset)) :
    Kept p request t
      (((Api.ofLoader watch p updated loaded).post .reset body t).1,
        .ok ((Api.ofLoader watch p updated loaded).post .reset body t).2) := by
  have hprovided : p < (t.reset watch p).providers.length := by
    rw [hquiet.providers_reset, Topology.clearCounters, Topology.setProvider, List.length_set]
    exact h.provided
  have hedges : (t.reset watch p).edges.entries = [] := by
    rw [hquiet.edges_reset]
    rfl
  have hns : (t.reset watch p).ns = t.ns := by
    rw [Topology.ns, hquiet.vertices_reset, Store.clear_ns]
    rfl
  have hstem : ((t.reset watch p).edgeIds p).stem = (t.edgeIds p).stem := by
    rw [Topology.edgeIds, provider_of_set h.provided (hquiet.providers_reset p t)]
    rfl
  exact kept_of_document (by decide) (sound_of_no_edges hprovided hedges) hns hstem
    (fun hnot => absurd (.inr htarget) hnot) (fun _ hcreated => by cases hcreated)

/-- Every request keeps what it should, as long as numbers are not too long. -/
theorem kept_handle (hquiet : watch.Quiet) (h : t.Sound p)
    (hclosed : ∀ g, loaded = .ok g → g.Closed)
    (hbefore : IntegerLiteral.Writable (t.edgeIds p).counter)
    (hafter : IntegerLiteral.Writable
      ((((Api.ofLoader watch p updated loaded).handle request t).1).edgeIds p).counter) :
    Kept p request t ((Api.ofLoader watch p updated loaded).handle request t) := by
  have heffect := (Api.ofLoader watch p updated loaded).handle_effect request t
  generalize (Api.ofLoader watch p updated loaded).handle request t = served at *
  cases heffect with
  | none houtcome => exact (Untouched.refl t).kept h houtcome
  | delete id => exact kept_delete hquiet h id
  | connect body => exact kept_connect hquiet h hbefore body
  | refresh body htarget => exact kept_refresh hquiet h hclosed body htarget hafter
  | reset body htarget => exact kept_reset hquiet h body htarget

end

/-! ## Runs of requests -/

/-- The content was replaced: a refresh or a reset succeeded. -/
def Exchange.Rebuilt (x : Exchange O) : Prop :=
  x.request.Rebuilds ∧ ¬ Failed x.outcome

/-- What is known of each exchange of a run that began with a sound topology. -/
structure Exchange.Kept (p : Nat) (t : Topology O) (x : Exchange O) : Prop where
  sound : x.before.Sound p
  ns_eq : x.before.ns = t.ns
  stem_eq : (x.before.edgeIds p).stem = (t.edgeIds p).stem
  kept : Rest.Kept p x.request x.before (x.after, x.outcome)

section

variable {watch : Observation O} {p : Nat} {updated : O → Bool}
  {inputs : List (Request × Except Fault Graph)} {t : Topology O}

/-- No number of an edge becomes too long in a run. -/
def Writables (p : Nat) (run : List (Exchange O)) : Prop :=
  ∀ x ∈ run, IntegerLiteral.Writable (x.before.edgeIds p).counter ∧
    IntegerLiteral.Writable (x.after.edgeIds p).counter

instance (p : Nat) (run : List (Exchange O)) : Decidable (Writables p run) :=
  inferInstanceAs (Decidable (∀ x ∈ run, IntegerLiteral.Writable (x.before.edgeIds p).counter ∧
    IntegerLiteral.Writable (x.after.edgeIds p).counter))

theorem exchanges_kept (hquiet : watch.Quiet) (h : t.Sound p)
    (hclosed : ∀ input ∈ inputs, ∀ g, input.2 = .ok g → g.Closed)
    (hwritable : Writables p (exchanges watch p updated inputs t)) :
    ∀ x ∈ exchanges watch p updated inputs t, x.Kept p t := by
  induction inputs generalizing t with
  | nil =>
      intro x hx
      cases hx
  | cons input inputs ih =>
      obtain ⟨request, loaded⟩ := input
      obtain ⟨x, heq, rfl, rfl, hserved⟩ :=
        exchanges_cons watch p updated request loaded inputs t
      rw [heq] at hwritable ⊢
      obtain ⟨hbefore, hafter⟩ := hwritable x List.mem_cons_self
      have hkept : Rest.Kept p x.request x.before (x.after, x.outcome) := by
        have hafter' : IntegerLiteral.Writable ((((Api.ofLoader watch p updated loaded).handle
            x.request x.before).1).edgeIds p).counter := by
          rw [hserved]
          exact hafter
        rw [← hserved]
        exact kept_handle hquiet h (hclosed _ List.mem_cons_self) hbefore hafter'
      intro y hy
      rcases List.mem_cons.mp hy with rfl | hrest
      · exact ⟨h, rfl, rfl, hkept⟩
      · have hclosed' : ∀ input ∈ inputs, ∀ g, input.2 = .ok g → g.Closed :=
          fun input hinput => hclosed input (List.mem_cons_of_mem _ hinput)
        have hwritable' : Writables p (exchanges watch p updated inputs x.after) :=
          fun z hz => hwritable z (List.mem_cons_of_mem _ hz)
        have hy := ih hkept.sound hclosed' hwritable' y hrest
        exact ⟨hy.sound, hy.ns_eq.trans hkept.ns_eq, hy.stem_eq.trans hkept.stem_eq, hy.kept⟩

/-- What remains of a run is a run. -/
theorem exists_exchanges_of_append {front back : List (Exchange O)}
    (h : exchanges watch p updated inputs t = front ++ back) :
    ∃ inputs' t', exchanges watch p updated inputs' t' = back := by
  induction front generalizing inputs t with
  | nil => exact ⟨inputs, t, h⟩
  | cons y front ih =>
      cases inputs with
      | nil => cases h
      | cons input inputs =>
          obtain ⟨request, loaded⟩ := input
          obtain ⟨x, heq, -⟩ := exchanges_cons watch p updated request loaded inputs t
          rw [heq] at h
          exact ih (List.cons.inj h).2

/-- An id that is created in a run is none of those that were covered at its start
or have been in use since, unless the content was replaced meanwhile. -/
theorem created_not_mem {segment back : List (Exchange O)} {x : Exchange O} {id : String}
    {seen : List String} (hseen : (t.edgeIds p).Covers seen)
    (heq : exchanges watch p updated inputs t = segment ++ x :: back)
    (hkept : ∀ y ∈ segment ++ [x], y.Kept p y.before)
    (hsegment : ∀ y ∈ segment, ¬ y.Rebuilt) (hid : created? x.outcome = some id) :
    id ∉ seen ∧ ∀ y ∈ segment ++ [x], id ∉ y.before.edges.ids := by
  induction segment generalizing inputs t seen with
  | nil =>
      cases inputs with
      | nil => cases heq
      | cons input inputs =>
          obtain ⟨request, loaded⟩ := input
          obtain ⟨first, hfirst, rfl, -⟩ :=
            exchanges_cons watch p updated request loaded inputs t
          rw [hfirst] at heq
          obtain ⟨rfl, -⟩ := List.cons.inj heq
          have hknown := hkept first List.mem_cons_self
          have hcreated := hknown.kept.created id hid
          refine ⟨?_, ?_⟩
          · rw [hcreated]
            exact hseen.not_mem (Int.le_refl _)
          · intro y hy
            rw [List.mem_singleton.mp hy, hcreated]
            exact IdGenerator.Covers.not_mem hknown.sound.numbered (Int.le_refl _)
  | cons y segment ih =>
      cases inputs with
      | nil => cases heq
      | cons input inputs =>
          obtain ⟨request, loaded⟩ := input
          obtain ⟨first, hfirst, rfl, -⟩ :=
            exchanges_cons watch p updated request loaded inputs t
          rw [hfirst] at heq
          obtain ⟨rfl, hrest⟩ := List.cons.inj heq
          have hknown := hkept first List.mem_cons_self
          obtain ⟨n, hn⟩ := hknown.kept.counted (hsegment first List.mem_cons_self)
          have hcovered : (first.after.edgeIds p).Covers (seen ++ first.before.edges.ids) := by
            have hnext := IdGenerator.Covers.advance (hseen.union hknown.sound.numbered) n
            rw [← hn] at hnext
            exact hnext
          obtain ⟨hfresh, hlater⟩ := ih hcovered hrest
            (fun z hz => hkept z (List.mem_cons_of_mem _ hz))
            (fun z hz => hsegment z (List.mem_cons_of_mem _ hz))
          refine ⟨fun hmem => hfresh (List.mem_append_left _ hmem), ?_⟩
          intro z hz
          rcases List.mem_cons.mp hz with rfl | hz
          · exact fun hmem => hfresh (List.mem_append_right _ hmem)
          · exact hlater z hz

end

/-- Any requests to a provider of an empty topology, while its loader offers closed
graphs or fails, and as long as no number of an edge becomes too long: every edge
joins stored vertices of the namespace; ids of edges are told apart and bear numbers
below the counter; a request that fails changes nothing; and an id that is given out
was in use at no time since the content was last replaced. -/
theorem requests_keep_topology_sound {watch : Observation O} (hquiet : watch.Quiet) {p : Nat}
    {updated : O → Bool} {t : Topology O} (hp : p < t.providers.length)
    (hedges : t.edges.entries = []) {inputs : List (Request × Except Fault Graph)}
    (hclosed : ∀ input ∈ inputs, ∀ g, input.2 = .ok g → g.Closed)
    (hwritable : Writables p (exchanges watch p updated inputs t)) :
    (∀ x ∈ exchanges watch p updated inputs t,
      (∃ es : List Edge, x.after.edges.entries = es.map .edge ∧
        ∀ e ∈ es, e.AnchoredIn x.after.vertices ∧
          e.sourceKey.ns = t.ns ∧ e.targetKey.ns = t.ns) ∧
      x.after.edges.ids.Nodup ∧
      (∀ id ∈ x.after.edges.ids, ∃ m : Int, m < (x.after.edgeIds p).counter ∧
        id = (t.edgeIds p).stem ++ Decimal.text m) ∧
      (Failed x.outcome → Untouched x.before x.after)) ∧
    ∀ front segment x back,
      exchanges watch p updated inputs t = front ++ (segment ++ x :: back) →
      (∀ y ∈ segment, ¬ y.Rebuilt) → ∀ id, created? x.outcome = some id →
        ∀ y ∈ segment ++ [x], id ∉ y.before.edges.ids := by
  have hkept := exchanges_kept hquiet (sound_of_no_edges hp hedges) hclosed hwritable
  refine ⟨?_, ?_⟩
  · intro x hx
    have hx := hkept x hx
    have hns : x.after.ns = t.ns := hx.kept.ns_eq.trans hx.ns_eq
    have hstem : (x.after.edgeIds p).stem = (t.edgeIds p).stem :=
      hx.kept.stem_eq.trans hx.stem_eq
    obtain ⟨es, hes, hanchored⟩ := hx.kept.sound.anchored
    have hstored : ∀ key, x.after.vertices.contains key = true → key.ns = t.ns := by
      intro key hkey
      obtain ⟨entity, hmem, rfl⟩ := Store.contains_iff.mp hkey
      exact (x.after.vertices.ns_eq entity hmem).trans hns
    refine ⟨⟨es, hes, ?_⟩, Store.ids_nodup _, ?_, hx.kept.untouched⟩
    · intro e he
      obtain ⟨hsource, htarget⟩ := hanchored e he
      exact ⟨⟨hsource, htarget⟩, hstored _ hsource, hstored _ htarget⟩
    · intro id hid
      rw [← hstem]
      exact hx.kept.sound.numbered.below id hid
  · intro front segment x back heq hsegment id hid
    obtain ⟨inputs', t', hrun⟩ := exists_exchanges_of_append heq
    have hsound : ∀ y ∈ segment ++ [x], y.Kept p y.before := by
      intro y hy
      have hmem : y ∈ exchanges watch p updated inputs t := by
        rw [heq]
        rcases List.mem_append.mp hy with hy | hy
        · exact List.mem_append_right _ (List.mem_append_left _ hy)
        · rw [List.mem_singleton.mp hy]
          exact List.mem_append_right _ (List.mem_append_right _ List.mem_cons_self)
      have hy := hkept y hmem
      exact ⟨hy.sound, rfl, rfl, hy.kept⟩
    exact (created_not_mem (IdGenerator.Covers.nil _) hrun hsound hsegment hid).2

/-- A refresh from two linked nodes, the removal of one of them, and a connection of
the other with itself. -/
def replacement : List (Request × Except Fault Graph) :=
  [({ method := "POST", address := "/api/v1/refresh" }, .ok (.linked (.int 7))),
    ({ method := "DELETE", address := "/api/v1/vertices/a" }, .error .unknownGraph),
    ({ method := "POST", address := "/api/v1/edges"
       payload := some { mediaType := "application/json"
                         text := "\x7b\"source\": \"b\", \"target\": \"b\"\x7d" } },
      .error .unknownGraph)]

/-- The edge that was removed is not replaced under its own id. -/
theorem replacement_has_new_id :
    ∃ x y z, exchanges (.silent Unit) 0 (fun _ => false) replacement provided = [x, y, z] ∧
      y.before.edges.ids = ["e0"] ∧ z.before.edges.ids = [] ∧
      created? z.outcome = some "e1" ∧ "e1" ∉ y.before.edges.ids := by
  have hclosed : ∀ input ∈ replacement, ∀ g, input.2 = .ok g → g.Closed := by
    intro input hinput g hg
    rcases List.mem_cons.mp hinput with rfl | hinput
    · cases hg
      intro link hlink
      rw [List.mem_singleton.mp hlink]
      exact ⟨by decide, by decide⟩
    · rcases List.mem_cons.mp hinput with rfl | hinput
      · cases hg
      · rw [List.mem_singleton.mp hinput] at hg
        cases hg
  have hwritable : Writables 0
      (exchanges (.silent Unit) 0 (fun _ => false) replacement provided) := by decide +kernel
  have hrun := requests_keep_topology_sound (Observation.silent_quiet Unit) (by decide) rfl
    hclosed hwritable
  refine ⟨_, _, _, rfl, ?_, ?_, ?_, ?_⟩
  · decide +kernel
  · decide +kernel
  · decide +kernel
  · refine hrun.2 [_] [_] _ [] rfl ?_ "e1" ?_ _ List.mem_cons_self
    · intro y hy
      rw [List.mem_singleton.mp hy]
      exact fun hrebuilt => absurd hrebuilt.1 (by decide +kernel)
    · decide +kernel

end NetworkTopology.Rest
