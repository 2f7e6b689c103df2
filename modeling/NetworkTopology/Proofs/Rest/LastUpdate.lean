import NetworkTopology.Proofs.Rest.Consistency
import NetworkTopology.Proofs.Topology.Alarm
import NetworkTopology.Proofs.Topology.Detachment

/-!
# What the health of a provider tells about its past

The interface to a provider listens to both stores, and its health tells whether it was
ever called.  That says whether anything has had an effect since the interface was
made, be it a request, an operation of this provider or of another one over the same
stores, or a call on one of the stores.

A refresh rebuilds the topology from a graph, whichever provider it is asked of; no other
kind of refresh is there.  Providers over the same stores share both of them: one that
shares only the vertices, and has edges of its own, is not one of them.
-/

namespace NetworkTopology.Rest

variable {L O : Type}

/-! ## Requests that have an effect -/

/-- A request that leads to the removal of a vertex, a connection, a refresh or a
reset. -/
def Request.Mutates (request : Request) : Prop :=
  (∃ id, request.target? = some ("DELETE", .vertex id)) ∨
    request.target? = some ("POST", .edges) ∨ request.Rebuilds

/-- After an answer a flag is raised exactly if it was before, or the answer is no
refusal. -/
def Reflects (updated : O → Bool) (t : Topology O) (served : Topology O × Response) : Prop :=
  updated served.1.observers = true ↔ updated t.observers = true ∨ served.2.status < 400

theorem not_failed_ok_iff {response : Response} :
    ¬ Failed (.ok response) ↔ response.status < 400 := by
  rw [← Nat.not_le]
  apply not_congr
  exact ⟨fun h => h response rfl, fun h _ heq => Except.ok.inj heq ▸ h⟩

namespace Api

variable {api : Api O} {t : Topology O}

/-- A request does to the topology what its method does at the resource that it leads
to. -/
theorem handle_fst (request : Request) : (api.handle request t).1 =
    match request.target? with
    | some (method, resource) =>
      (api.route method (.resource resource) request.document t).1
    | none => t := by
  rw [handle, Request.target?]
  cases request.recipient with
  | error fault => rfl
  | ok recipient =>
      by_cases hproper : recipient.isProper = true
      · simp only [hproper, if_true]
        cases recipient.destination request.methodName <;> rfl
      · simp only [hproper]
        rfl

theorem handle_fst_of_not_mutates {request : Request} (h : ¬ request.Mutates) :
    (api.handle request t).1 = t := by
  rw [handle_fst]
  split
  · rename_i method resource htarget
    simp only [route]
    split
    · exact absurd (.inl ⟨_, htarget⟩) h
    · cases resource with
      | edges => exact absurd (.inr (.inl htarget)) h
      | refresh => exact absurd (.inr (.inr (.inl htarget))) h
      | reset => exact absurd (.inr (.inr (.inr htarget))) h
      | selection => exact post_selection_fst _
      | health | vertices | vertex _ | vertexEdges _ | edge _ | file _ => rfl
    · rfl
  · rfl

/-- A connection comes down to that of two vertices, unless these cannot be told. -/
theorem connect_cases (api : Api O) (body : Json) (t : Topology O) :
    api.connect body t = (t, .bare 500) ∨
    ∃ source target,
      (api.connect body t).1 = (t.connect api.watch api.provider source target).1 ∧
      ((api.connect body t).2.status < 400 ↔
        ∃ e, (t.connect api.watch api.provider source target).2 = .ok (some e)) := by
  rw [connect]
  split
  · exact .inl rfl
  · rename_i source target _
    refine .inr ⟨source, target, ?_⟩
    -- The status tells an edge from a missing end and from a failure.
    split
    all_goals
      rename_i heq
      simp [heq, Response.status]

theorem post_refresh (api : Api O) (body : Json) (t : Topology O) :
    (api.post .refresh body t).1 = (api.refresh t).1 ∧
      ((api.post .refresh body t).2.status < 400 ↔ (api.refresh t).2 = .ok ()) := by
  simp only [post]
  split
  all_goals
    rename_i heq
    simp [heq, Response.status]

variable {a : Attendance L O} {keeper : L} {updated : O → Bool} {p : Nat}
  {loaded : Except Fault Graph}

theorem reflects_delete (h : a.Flagged keeper updated) (ht : a.Attends keeper t.observers)
    (id : String) :
    Reflects updated t ((ofLoader a.watch p updated loaded).delete id t) := by
  have hquiet : (ofLoader a.watch p updated loaded).watch.Quiet := h.aloof.quiet
  cases hcontains : t.vertices.contains ⟨t.ns, id⟩ with
  | false =>
      rw [delete_of_absent hcontains]
      simp [Reflects, missing, Response.status]
  | true =>
      cases hattached : t.edges.attached (some ⟨t.ns, id⟩) with
      | error fault =>
          simp [Reflects, delete, hcontains, hattached, Response.status]
      | ok edges =>
          obtain ⟨es, hes⟩ := Store.edges_of_attached hattached
          obtain ⟨t', hdetached, hdelete⟩ := delete_of_contains hquiet hes hcontains
          have hremoves : a.Removes keeper updated t t' := by
            have hremoved := hdelete
            simp only [delete, hcontains, if_true, hattached] at hremoved
            rw [← (Prod.mk.inj hremoved).1]
            exact h.removes_removeAllWithEdges [some ⟨t.ns, id⟩] t
          have hlost : t.Loses t' := by
            refine ⟨.vertices, ⟨t.ns, id⟩, hcontains, Bool.eq_false_iff.mpr ?_⟩
            change t'.vertices.contains _ ≠ true
            rw [hdetached.vertices_eq, ne_eq, Store.contains_remove]
            exact fun hkept => hkept.2 List.mem_cons_self
          rw [hdelete]
          exact iff_of_true ((hremoves.raised_iff ht).mpr (.inr hlost))
            (.inr (by decide : 200 < 400))

theorem reflects_connect (h : a.Flagged keeper updated) (ht : a.Attends keeper t.observers)
    (body : Json) :
    Reflects updated t ((ofLoader a.watch p updated loaded).connect body t) := by
  rcases (ofLoader a.watch p updated loaded).connect_cases body t with
    hconnect | ⟨source, target, hfst, hstatus⟩
  · simp [Reflects, hconnect, Response.status]
  · rw [Reflects, hfst, hstatus]
    exact h.raised_connect_iff ht p source target

theorem reflects_refresh (h : a.Flagged keeper updated) (ht : a.Attends keeper t.observers)
    (hp : p < t.providers.length) (hfew : Numberable loaded) (body : Json) :
    Reflects updated t ((ofLoader a.watch p updated loaded).post .refresh body t) := by
  obtain ⟨hfst, hstatus⟩ := (ofLoader a.watch p updated loaded).post_refresh body t
  rw [Reflects, hfst, hstatus]
  exact h.raised_refresh_iff ht hp hfew

theorem reflects_reset (h : a.Flagged keeper updated) (ht : a.Attends keeper t.observers)
    (body : Json) :
    Reflects updated t ((ofLoader a.watch p updated loaded).post .reset body t) :=
  iff_of_true (h.raised_reset ht p) (.inr (by decide : 200 < 400))

/-- A request raises the flag exactly if it is to have an effect and does not fail. -/
theorem raised_handle_iff (h : a.Flagged keeper updated) (ht : a.Attends keeper t.observers)
    (hp : p < t.providers.length) (hfew : Numberable loaded) (request : Request) :
    let served := (ofLoader a.watch p updated loaded).handle request t
    updated served.1.observers = true ↔
      updated t.observers = true ∨ request.Mutates ∧ ¬ Failed served.2 := by
  intro served
  by_cases hmutates : request.Mutates
  · obtain ⟨method, resource, htarget, hmethod, hreflects⟩ :
        ∃ method resource, request.target? = some (method, resource) ∧ method ≠ "HEAD" ∧
          Reflects updated t ((ofLoader a.watch p updated loaded).route method
            (.resource resource) request.document t) := by
      rcases hmutates with ⟨id, htarget⟩ | htarget | htarget | htarget
      · exact ⟨_, _, htarget, by decide, reflects_delete h ht id⟩
      · exact ⟨_, _, htarget, by decide, reflects_connect h ht request.document⟩
      · exact ⟨_, _, htarget, by decide, reflects_refresh h ht hp hfew request.document⟩
      · exact ⟨_, _, htarget, by decide, reflects_reset h ht request.document⟩
    simp only [served, handle_of_target htarget hmethod, not_failed_ok_iff, hmutates, true_and]
    exact hreflects
  · have hserved : served.1 = t := handle_fst_of_not_mutates hmutates
    simp [hserved, hmutates]

/-- Whatever single steps keep, a request keeps. -/
theorem keeps_handle {watch : Observation O} {R : Topology O → Topology O → Prop}
    (h : watch.Keeps R) (request : Request) (t : Topology O) :
    R t ((ofLoader watch p updated loaded).handle request t).1 := by
  have heffect := (ofLoader watch p updated loaded).handle_effect request t
  generalize (ofLoader watch p updated loaded).handle request t = served at heffect ⊢
  cases heffect with
  | none _ => exact h.refl t
  | delete id =>
      have hremove := h.removeAllWithEdges [some ⟨t.ns, id⟩] t
      simp only [delete]
      split
      · split
        · exact h.refl t
        · exact hremove
      · exact h.refl t
  | connect body =>
      rcases (ofLoader watch p updated loaded).connect_cases body t with
        hconnect | ⟨source, target, hfst, -⟩
      · rw [hconnect]
        exact h.refl t
      · rw [hfst]
        exact h.connect p source target t
  | refresh body _ =>
      rw [((ofLoader watch p updated loaded).post_refresh body t).1]
      exact h.refresh p loaded t
  | reset body _ => exact h.reset p t

end Api

/-! ## Runs -/

/-- What may happen as long as there is an interface: an operation or a question, a
request while the loader has something to offer, or a change of who listens. -/
inductive Act (O : Type) where
  | interaction (i : Interaction)
  | serve (request : Request) (loaded : Except Fault Graph)
  | regroup (change : O → O)

namespace Act

section

variable (watch : Observation O) (p : Nat) (updated : O → Bool) (t : Topology O)

def perform : Act O → Topology O
  | interaction i => (i.perform watch t).1
  | serve request loaded => ((Api.ofLoader watch p updated loaded).handle request t).1
  | regroup change => { t with observers := change t.observers }

def Fails : Act O → Prop
  | interaction i => ∃ fault, (i.perform watch t).2 = .error fault
  | serve request loaded => Failed ((Api.ofLoader watch p updated loaded).handle request t).2
  | regroup _ => False

/-- An operation that has an effect, or a request that is to have one and does not
fail. -/
def Effective : Act O → Prop
  | interaction (.operate op) => op.Effective watch t
  | interaction (.ask ..) => False
  | serve request loaded => request.Mutates ∧
      ¬ Failed ((Api.ofLoader watch p updated loaded).handle request t).2
  | regroup _ => False

end

def run (watch : Observation O) (p : Nat) (updated : O → Bool) (acts : List (Act O))
    (t : Topology O) : Topology O :=
  acts.foldl (perform watch p updated) t

/-- One of the acts has an effect when its turn comes. -/
def Happens (watch : Observation O) (p : Nat) (updated : O → Bool) (acts : List (Act O))
    (t : Topology O) : Prop :=
  ∃ before act rest, acts = before ++ act :: rest ∧
    act.Effective watch p updated (run watch p updated before t)

/-- An act that can be: refreshes are by providers of the topology, graphs do not have
more edges than can be numbered, and a change of who listens concerns others than the
keeper of the flag. -/
def Admissible (a : Attendance L O) (keeper : L) (updated : O → Bool) (providers : Nat) :
    Act O → Prop
  | interaction (.operate op) => op.Feasible providers
  | interaction (.ask ..) => True
  | serve _ loaded => Numberable loaded
  | regroup change => ∀ o, Persists a.registered keeper updated o (change o) ∧
      updated (change o) = updated o

variable {watch : Observation O} {p : Nat} {updated : O → Bool} {t : Topology O}

theorem not_happens_nil : ¬ Happens watch p updated [] t := by
  rintro ⟨before, act, rest, heq, -⟩
  cases before <;> cases heq

theorem happens_cons_iff {act : Act O} {acts : List (Act O)} :
    Happens watch p updated (act :: acts) t ↔
      act.Effective watch p updated t ∨
        Happens watch p updated acts (act.perform watch p updated t) := by
  constructor
  · rintro ⟨before, other, rest, heq, heffective⟩
    cases before with
    | nil =>
        obtain ⟨rfl, rfl⟩ := List.cons.inj heq
        exact .inl heffective
    | cons first before =>
        obtain ⟨rfl, rfl⟩ := List.cons.inj heq
        exact .inr ⟨before, other, rest, rfl, heffective⟩
  · rintro (heffective | ⟨before, other, rest, rfl, heffective⟩)
    · exact ⟨[], act, acts, rfl, heffective⟩
    · exact ⟨act :: before, other, rest, rfl, heffective⟩

/-- An act that fails has no effect, but for a removal that comes upon something else
than an edge among the edges. -/
theorem not_effective_of_fails (hquiet : watch.Quiet) {act : Act O}
    (hfails : act.Fails watch p updated t)
    (hedges : ∀ vertices, act = interaction (.operate (.removeWithEdges vertices)) →
      ∃ es : List Edge, t.edges.entries = es.map .edge) :
    ¬ act.Effective watch p updated t := by
  cases act with
  | interaction i =>
      cases i with
      | operate op =>
          obtain ⟨fault, hfault⟩ := hfails
          cases hresult : (op.perform watch t).2 with
          | error other =>
              exact op.not_effective_of_error hquiet hresult fun vertices hop =>
                hedges vertices (hop ▸ rfl)
          | ok result =>
              change (op.perform watch t).2.map Interaction.Reply.done = .error fault at hfault
              rw [hresult] at hfault
              cases hfault
      | ask question target => exact id
  | serve request loaded => exact fun heffective => heffective.2 hfails
  | regroup change => exact id

variable {a : Attendance L O} {keeper : L}

/-- What an act leaves: providers and the keeper of the flag are still there, and the
flag is raised exactly if it was before or the act has had an effect. -/
structure Noted (a : Attendance L O) (keeper : L) (updated : O → Bool) (effect : Prop)
    (t t' : Topology O) : Prop where
  length_eq : t'.providers.length = t.providers.length
  attends : a.Attends keeper t'.observers
  raised_iff : updated t'.observers = true ↔ updated t.observers = true ∨ effect

theorem noted_perform (h : a.Flagged keeper updated) (ht : a.Attends keeper t.observers)
    (hp : p < t.providers.length) {act : Act O}
    (hact : act.Admissible a keeper updated t.providers.length) :
    Noted a keeper updated (act.Effective a.watch p updated t) t
      (act.perform a.watch p updated t) := by
  cases act with
  | interaction i =>
      cases i with
      | operate op =>
          exact ⟨h.aloof.quiet.keeps_length.perform op t, ht.persists (h.keeps.perform op t),
            h.raised_perform_iff ht hact⟩
      | ask question target => exact ⟨rfl, ht, (or_false _).symm ▸ Iff.rfl⟩
  | serve request loaded =>
      exact ⟨Api.keeps_handle h.aloof.quiet.keeps_length request t,
        ht.persists (Api.keeps_handle h.keeps request t),
        Api.raised_handle_iff h ht hp hact request⟩
  | regroup change =>
      obtain ⟨hpersists, hflag⟩ := hact t.observers
      exact ⟨rfl, ht.persists hpersists, by simp [perform, Effective, hflag]⟩

theorem noted_run (h : a.Flagged keeper updated) (ht : a.Attends keeper t.observers)
    (hp : p < t.providers.length) {acts : List (Act O)}
    (hacts : ∀ act ∈ acts, act.Admissible a keeper updated t.providers.length) :
    Noted a keeper updated (Happens a.watch p updated acts t) t
      (run a.watch p updated acts t) := by
  induction acts generalizing t with
  | nil => exact ⟨rfl, ht, by simp [run, not_happens_nil]⟩
  | cons act acts ih =>
      obtain ⟨hact, hacts⟩ := List.forall_mem_cons.mp hacts
      have hnoted := noted_perform h ht hp hact
      rw [← hnoted.length_eq] at hp hacts
      have hrun := ih hnoted.attends hp hacts
      refine ⟨hrun.length_eq.trans hnoted.length_eq, hrun.attends, ?_⟩
      rw [happens_cons_iff, ← or_assoc, ← hnoted.raised_iff]
      exact hrun.raised_iff

end Act

open Act (run Happens)

/-- The health of a provider tells that the interface was called exactly if one of the
acts since it was made has had an effect.  An act that fails has none, unless a removal
comes upon something else than an edge among the edges; what has none leaves the flag
as it is; and nothing lowers it. -/
theorem health_tells_whether_anything_happened {a : Attendance L O} {keeper : L}
    {updated : O → Bool} (h : a.Flagged keeper updated) {p : Nat} {t : Topology O}
    (ht : a.Attends keeper t.observers) (hnew : updated t.observers = false)
    (hp : p < t.providers.length) {acts : List (Act O)}
    (hacts : ∀ act ∈ acts, act.Admissible a keeper updated t.providers.length) :
    let after := fun acts => run a.watch p updated acts t
    let flag := fun acts => updated (after acts).observers
    (∀ loaded request, request.target? = some ("GET", .health) → ∃ document,
      (Api.ofLoader a.watch p updated loaded).handle request (after acts) =
          (after acts, .ok (.document 200 document)) ∧
        document.at? ["last_update"] = some (.bool (flag acts))) ∧
    (flag acts = true ↔ Happens a.watch p updated acts t) ∧
    ∀ before act rest, acts = before ++ act :: rest →
      (act.Fails a.watch p updated (after before) →
        (∀ vertices, act = .interaction (.operate (.removeWithEdges vertices)) →
          ∃ es : List Edge, (after before).edges.entries = es.map .edge) →
        ¬ act.Effective a.watch p updated (after before)) ∧
      (¬ act.Effective a.watch p updated (after before) →
        flag (before ++ [act]) = flag before) ∧
      (flag before = true → flag (before ++ [act]) = true) := by
  intro after flag
  refine ⟨?_, ?_, ?_⟩
  · intro loaded request htarget
    have hshows : (Api.ofLoader a.watch p updated loaded).Shows .health (after acts)
        (.document 200 ((Api.ofLoader a.watch p updated loaded).health (after acts))) :=
      Api.shows_of_get rfl
    exact ⟨_, (hshows request.document).handle_eq request htarget rfl, rfl⟩
  · have hraised := (Act.noted_run h ht hp hacts).raised_iff
    simpa [hnew] using hraised
  · rintro before act rest rfl
    obtain ⟨hbefore, hact, -⟩ : _ ∧ _ ∧ _ := by
      rw [List.forall_mem_append, List.forall_mem_cons] at hacts
      exact hacts
    have hrun := Act.noted_run h ht hp hbefore
    have hlast := Act.noted_perform h hrun.attends (hrun.length_eq ▸ hp) (hrun.length_eq ▸ hact)
    have hconcat : after (before ++ [act]) = act.perform a.watch p updated (after before) := by
      simp only [after, run, List.foldl_append, List.foldl_cons, List.foldl_nil]
    have hraised : flag (before ++ [act]) = true ↔
        flag before = true ∨ act.Effective a.watch p updated (after before) := by
      simp only [flag, hconcat]
      exact hlast.raised_iff
    refine ⟨Act.not_effective_of_fails h.aloof.quiet, fun hnone => ?_, fun hflag => ?_⟩
    · rw [Bool.eq_iff_iff, hraised]
      exact or_iff_left hnone
    · exact hraised.mpr (.inl hflag)

/-- A session with an interface and two listeners, one of which removes the other. -/
def watched : Topology Session.Surroundings :=
  Topology.provided.seenBy
    { onVertices := [.listener "second", .api, .listener "first"]
      onEdges := [.api, .listener "first"] }

/-- A vertex of another namespace is added, a vertex is connected with nothing, a vertex
that is not there is to be deleted, a refresh fails, and the health is asked for, all of
it in vain. -/
def idleActs : List (Act Session.Surroundings) :=
  [.interaction (.operate (.mutate .vertices (.add [some (.vertex { key := ⟨"m", "a"⟩ })]))),
    .interaction (.operate (.connect 0 (some ⟨"n", "a"⟩) none)),
    .serve { method := "DELETE", address := "/api/v1/vertices/a" } (.error .unknownGraph),
    .serve { method := "POST", address := "/api/v1/refresh" } (.error .unknownGraph),
    .regroup fun o => o.subscribe .vertices (.listener "third"),
    .serve { method := "GET", address := "/api/v1/health" } (.error .unknownGraph)]

/-- Nothing that fails is an update, but to clear a store is one, even if it is empty. -/
theorem health_of_watched :
    let watch := Session.quarrel.watch Session.quarrel.depth
    let health : Request := { method := "GET", address := "/api/v1/health" }
    let tells := fun acts value => ∃ t' document,
      (Api.ofLoader watch 0 Session.Surroundings.touched (.error .unknownGraph)).handle health
          (run watch 0 Session.Surroundings.touched acts watched) =
        (t', .ok (.document 200 document)) ∧
      document.at? ["last_update"] = some (.bool value)
    tells idleActs false ∧
      ¬ Happens watch 0 Session.Surroundings.touched idleActs watched ∧
      tells (idleActs ++ [.interaction (.operate (.mutate .edges .clear))]) true := by
  intro watch health tells
  obtain ⟨a, hflagged, hwatch, hregistered⟩ :=
    Session.RegistersOnly.exists_flagged (s := Session.quarrel) (by decide) Session.quarrel.depth
  have hattends : a.Attends .api watched.observers := by
    rw [Attendance.Attends, hregistered]
    intro kind
    cases kind <;> decide
  have hunloaded : Numberable (.error .unknownGraph) := fun g hg => nomatch hg
  have hidle : ∀ act ∈ idleActs,
      act.Admissible a .api Session.Surroundings.touched watched.providers.length := by
    simp only [idleActs, List.forall_mem_cons, List.not_mem_nil, false_implies, implies_true,
      and_true]
    refine ⟨trivial, trivial, hunloaded, hunloaded, fun o => ⟨?_, rfl⟩, hunloaded⟩
    rw [hregistered]
    exact Session.Surroundings.recalls_subscribe o .vertices (.listener "third")
  have hbusy : ∀ act ∈ idleActs ++ [.interaction (.operate (.mutate .edges .clear))],
      act.Admissible a .api Session.Surroundings.touched watched.providers.length :=
    List.forall_mem_append.mpr
      ⟨hidle, fun act hact => List.mem_singleton.mp hact ▸ trivial⟩
  have htarget : health.target? = some ("GET", .health) := by decide +kernel
  have huntouched :
      (run watch 0 Session.Surroundings.touched idleActs watched).observers.touched = false := by
    decide +kernel
  obtain ⟨hshown, hraised, -⟩ := health_tells_whether_anything_happened hflagged hattends rfl
    (p := 0) (by decide) hidle
  obtain ⟨hshown', hraised', -⟩ := health_tells_whether_anything_happened hflagged hattends rfl
    (p := 0) (by decide) hbusy
  simp only [← hwatch] at hshown hraised hshown' hraised'
  change _ = false at huntouched
  refine ⟨?_, ?_, ?_⟩
  · obtain ⟨document, hserved, hvalue⟩ := hshown (.error .unknownGraph) health htarget
    rw [huntouched] at hvalue
    exact ⟨_, document, hserved, hvalue⟩
  · rw [← hraised, huntouched]
    exact Bool.false_ne_true
  · obtain ⟨document, hserved, hvalue⟩ := hshown' (.error .unknownGraph) health htarget
    rw [hraised'.mpr ⟨idleActs, _, [], rfl, trivial⟩] at hvalue
    exact ⟨_, document, hserved, hvalue⟩

end NetworkTopology.Rest
