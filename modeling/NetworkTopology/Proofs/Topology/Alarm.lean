import NetworkTopology.Proofs.Topology.Cascade
import NetworkTopology.Proofs.Topology.Independence

/-!
# A listener that raises a flag

Of listeners that do not call back, one keeps a flag and raises it whenever it is
called.  An operation makes it do so exactly if it has an effect on what is stored, and
an addition has one also if everything that it adds was there before.  Operations that
fail, questions and warnings leave the flag alone, and nothing lowers it.

The refresh among the operations is the one from a graph, and all providers that operate
share both stores.
-/

namespace NetworkTopology

variable {L O : Type}

/-! ## The keeper of a flag -/

/-- From one state of the observers to another, a listener has stayed registered
wherever it was, and a flag has not been lowered. -/
structure Persists (registered : StoreKind → O → List L) (keeper : L) (flag : O → Bool)
    (o o' : O) : Prop where
  attends : ∀ kind, keeper ∈ registered kind o → keeper ∈ registered kind o'
  raised : flag o = true → flag o' = true

namespace Persists

variable {registered : StoreKind → O → List L} {keeper : L} {flag : O → Bool}

theorem refl (o : O) : Persists registered keeper flag o o := ⟨fun _ => id, id⟩

theorem trans {o o' o'' : O} (h : Persists registered keeper flag o o')
    (h' : Persists registered keeper flag o' o'') : Persists registered keeper flag o o'' :=
  ⟨fun kind => h'.attends kind ∘ h.attends kind, h'.raised ∘ h.raised⟩

end Persists

namespace Attendance

/-- A listener is registered with both stores. -/
def Attends (a : Attendance L O) (keeper : L) (o : O) : Prop :=
  ∀ kind, keeper ∈ a.registered kind o

theorem Attends.persists {a : Attendance L O} {keeper : L} {flag : O → Bool} {o o' : O}
    (ho : a.Attends keeper o) (h : Persists a.registered keeper flag o o') :
    a.Attends keeper o' :=
  fun kind => h.attends kind (ho kind)

/-- Among listeners that do not call back, one keeps a flag: it raises the flag when it
is called.  Nobody lowers the flag or removes its keeper, and no warning raises it. -/
structure Flagged (a : Attendance L O) (keeper : L) (flag : O → Bool) : Prop where
  aloof : a.Aloof
  raises : ∀ kind event t, flag (a.call kind event keeper t).1.observers = true
  call : ∀ kind event l t,
    Persists a.registered keeper flag t.observers (a.call kind event l t).1.observers
  report : ∀ event l o, Persists a.registered keeper flag o (a.report event l o)
  warn : ∀ warning o, Persists a.registered keeper flag o (a.onWarning warning o)
  flag_warn : ∀ warning o, flag (a.onWarning warning o) = flag o

/-- The topology after a listener was called, and after its failure was noted if it
failed. -/
def afterCall (a : Attendance L O) (kind : StoreKind) (event : ChangeEvent) (l : L)
    (t : Topology O) : Topology O :=
  match a.call kind event l t with
  | (t, false) => t
  | (t, true) => { t with observers := a.report event l t.observers }

variable {a : Attendance L O} {keeper : L} {flag : O → Bool}

theorem announceTo_cons (kind : StoreKind) (event : ChangeEvent) (l : L) (listeners : List L)
    (t : Topology O) : a.announceTo kind event (l :: listeners) t =
      a.announceTo kind event listeners (a.afterCall kind event l t) := by
  simp only [announceTo, Registry.announce, afterCall]
  cases a.call kind event l t with
  | mk after failed => cases failed <;> rfl

theorem on_watch (kind : StoreKind) (event : ChangeEvent) (t : Topology O) :
    a.watch.on kind event t =
      a.announceTo kind event (a.registered kind t.observers) t := by
  cases kind <;> rfl

namespace Flagged

/-! ## Announcements -/

theorem persists_call (h : a.Flagged keeper flag) (kind : StoreKind) (event : ChangeEvent)
    (l : L) (t : Topology O) :
    Persists a.registered keeper flag (a.call kind event l t).1.observers
      (a.afterCall kind event l t).observers := by
  rw [afterCall]
  split
  · rename_i heq
    rw [heq]
    exact .refl _
  · rename_i heq
    rw [heq]
    exact h.report event l _

theorem persists_announceTo (h : a.Flagged keeper flag) (kind : StoreKind)
    (event : ChangeEvent) (listeners : List L) (t : Topology O) :
    Persists a.registered keeper flag t.observers
      (a.announceTo kind event listeners t).observers := by
  induction listeners generalizing t with
  | nil => exact .refl _
  | cons l listeners ih =>
      rw [announceTo_cons]
      exact ((h.call kind event l t).trans (h.persists_call kind event l t)).trans (ih _)

theorem raised_announceTo (h : a.Flagged keeper flag) (kind : StoreKind)
    (event : ChangeEvent) {listeners : List L} (hkeeper : keeper ∈ listeners)
    (t : Topology O) : flag (a.announceTo kind event listeners t).observers = true := by
  induction listeners generalizing t with
  | nil => cases hkeeper
  | cons l listeners ih =>
      rw [announceTo_cons]
      rcases List.mem_cons.mp hkeeper with rfl | hkeeper
      · apply (h.persists_announceTo kind event listeners _).raised
        exact (h.persists_call kind event keeper t).raised (h.raises kind event t)
      · exact ih hkeeper _

/-! ## Mutations -/

theorem flag_warnings (h : a.Flagged keeper flag) (warnings : List Warning) (o : O) :
    flag (warnings.foldl (fun o warning => a.onWarning warning o) o) = flag o := by
  induction warnings generalizing o with
  | nil => rfl
  | cons warning warnings ih => rw [List.foldl_cons, ih, h.flag_warn]

theorem persists_warnings (h : a.Flagged keeper flag) (warnings : List Warning) (o : O) :
    Persists a.registered keeper flag o
      (warnings.foldl (fun o warning => a.onWarning warning o) o) := by
  induction warnings generalizing o with
  | nil => exact .refl o
  | cons warning warnings ih => exact (h.warn warning o).trans (ih _)

theorem persists_committed (h : a.Flagged keeper flag) {kind : StoreKind}
    {m : Store.Mutation} {t committed : Topology O}
    (hcommitted : Topology.Committed a.watch kind m t committed) :
    Persists a.registered keeper flag t.observers committed.observers := by
  obtain ⟨warnings, hwarned⟩ := hcommitted.warned
  rw [hwarned]
  exact h.persists_warnings warnings t.observers

theorem persists_mutate (h : a.Flagged keeper flag) (kind : StoreKind) (m : Store.Mutation)
    (t : Topology O) :
    Persists a.registered keeper flag t.observers (t.mutate a.watch kind m).observers := by
  obtain ⟨committed, hcommitted, hmutate⟩ := t.exists_committed a.watch kind m
  have hpersists := h.persists_committed hcommitted
  rw [hmutate]
  split
  · rw [on_watch]
    exact hpersists.trans (h.persists_announceTo kind _ _ _)
  · exact hpersists

theorem raised_mutate_iff (h : a.Flagged keeper flag) {t : Topology O}
    (ht : a.Attends keeper t.observers) (kind : StoreKind) (m : Store.Mutation) :
    flag (t.mutate a.watch kind m).observers = true ↔
      flag t.observers = true ∨ (t.store kind).Touches m := by
  obtain ⟨committed, hcommitted, hmutate⟩ := t.exists_committed a.watch kind m
  rw [← Store.event?_isSome_iff, hmutate]
  cases (t.store kind).event? m with
  | some event =>
      have hkeeper := (h.persists_committed hcommitted).attends kind (ht kind)
      have hraised := h.raised_announceTo kind event hkeeper committed
      rw [← on_watch] at hraised
      exact iff_of_true hraised (.inr rfl)
  | none =>
      obtain ⟨warnings, hwarned⟩ := hcommitted.warned
      have hflag : flag committed.observers = flag t.observers := by
        rw [hwarned]
        exact h.flag_warnings warnings t.observers
      simp only [hflag, Option.isSome_none, Bool.false_eq_true, or_false]

/-- Whatever is done, the keeper stays and the flag is not lowered. -/
theorem keeps (h : a.Flagged keeper flag) :
    a.watch.Keeps fun t t' => Persists a.registered keeper flag t.observers t'.observers where
  refl _ := .refl _
  trans := .trans
  warn warning t := h.warn warning t.observers
  mutate := h.persists_mutate
  clearCounters _ _ := .refl _
  nextVertexId _ _ := .refl _
  nextEdgeId _ _ := .refl _

end Flagged

end Attendance

/-! ## Operations that have an effect -/

/-- Something that was stored is not stored any more. -/
def Topology.Loses (t t' : Topology O) : Prop :=
  ∃ kind key, (t.store kind).contains key = true ∧ (t'.store kind).contains key = false

/-- An operation adds, replaces or removes something, or it clears a store, or it
connects two vertices, or rebuilds the content. -/
def Operation.Effective (watch : Observation O) (t : Topology O) : Operation → Prop
  | mutate kind m => (t.store kind).Touches m
  | connect p source target =>
      ∃ e, (t.connect watch p source target).2 = .ok (some e)
  | removeWithEdges vertices => t.Loses (t.removeAllWithEdges watch vertices).1
  | reset _ => True
  | refresh p loaded => (t.refresh watch p loaded).2 = .ok ()
  | clearCounters _ | nextVertexId _ | nextEdgeId _ => False

/-- What a loader offers does not have more edges than can be numbered. -/
def Numberable (loaded : Except Fault Graph) : Prop :=
  ∀ g, loaded = .ok g → g.edges.length < IntegerLiteral.bound

/-- A refresh is one by an existing provider, from a graph whose edges can be
numbered. -/
def Operation.Feasible (providers : Nat) : Operation → Prop
  | refresh p loaded => p < providers ∧ Numberable loaded
  | _ => True

namespace Attendance

variable {a : Attendance L O} {keeper : L} {flag : O → Bool}

/-- From one topology to another nothing but removals happened: what is stored was stored
before, and the flag was raised if anything is lost. -/
structure Removes (a : Attendance L O) (keeper : L) (flag : O → Bool) (t t' : Topology O) :
    Prop where
  persists : Persists a.registered keeper flag t.observers t'.observers
  contains : ∀ kind key, (t'.store kind).contains key = true →
    (t.store kind).contains key = true
  raised_iff : a.Attends keeper t.observers →
    (flag t'.observers = true ↔ flag t.observers = true ∨ t.Loses t')

theorem Removes.of_stores_eq {t t' : Topology O} (hstores : ∀ kind, t'.store kind = t.store kind)
    (hpersists : Persists a.registered keeper flag t.observers t'.observers)
    (hflag : flag t'.observers = flag t.observers) : a.Removes keeper flag t t' := by
  refine ⟨hpersists, fun kind key hkey => hstores kind ▸ hkey, fun _ => ?_⟩
  rw [hflag]
  refine ⟨.inl, fun h => h.resolve_right ?_⟩
  rintro ⟨kind, key, hbefore, hafter⟩
  rw [hstores kind, hbefore] at hafter
  cases hafter

theorem Removes.trans {t t' t'' : Topology O} (h : a.Removes keeper flag t t')
    (h' : a.Removes keeper flag t' t'') : a.Removes keeper flag t t'' := by
  refine ⟨h.persists.trans h'.persists, fun kind key => h.contains kind key ∘ h'.contains kind key,
    fun ht => ?_⟩
  rw [h'.raised_iff (ht.persists h.persists), h.raised_iff ht, or_assoc]
  apply or_congr_right
  constructor
  · rintro (⟨kind, key, hbefore, hafter⟩ | ⟨kind, key, hbefore, hafter⟩)
    · refine ⟨kind, key, hbefore, ?_⟩
      rw [← Bool.not_eq_true] at hafter ⊢
      exact fun hkey => hafter (h'.contains kind key hkey)
    · exact ⟨kind, key, h.contains kind key hbefore, hafter⟩
  · rintro ⟨kind, key, hbefore, hafter⟩
    cases hbetween : (t'.store kind).contains key with
    | false => exact .inl ⟨kind, key, hbefore, hbetween⟩
    | true => exact .inr ⟨kind, key, hbetween, hafter⟩

namespace Flagged

variable {t : Topology O}

theorem removes_mutate (h : a.Flagged keeper flag) (kind : StoreKind)
    (keys : List (Option Key)) (t : Topology O) :
    a.Removes keeper flag t (t.mutate a.watch kind (.remove keys)) := by
  have hcontains : ∀ other key,
      ((t.mutate a.watch kind (.remove keys)).store other).contains key = true ↔
        (t.store other).contains key = true ∧ (other = kind → some key ∉ keys) := by
    intro other key
    by_cases hother : other = kind
    · subst hother
      rw [h.aloof.quiet.store_mutate, Store.mutate, Store.contains_remove]
      simp only [true_implies]
    · rw [h.aloof.quiet.store_mutate_of_ne kind other hother]
      simp only [hother, false_implies, and_true]
  refine ⟨h.persists_mutate kind _ t, fun other key hkey => ((hcontains other key).mp hkey).1,
    fun ht => ?_⟩
  rw [h.raised_mutate_iff ht]
  apply or_congr_right
  constructor
  · rintro ⟨key, hnamed, hkey⟩
    refine ⟨kind, key, hkey, ?_⟩
    rw [← Bool.not_eq_true, hcontains]
    exact fun hkept => hkept.2 rfl hnamed
  · rintro ⟨other, key, hbefore, hafter⟩
    rw [← Bool.not_eq_true, hcontains, not_and] at hafter
    obtain ⟨rfl, hnamed⟩ := Classical.not_imp.mp (hafter hbefore)
    exact ⟨key, not_not.mp hnamed, hbefore⟩

theorem removes_removeWithEdges (h : a.Flagged keeper flag) (vertex : Option Key)
    (t : Topology O) : a.Removes keeper flag t (t.removeWithEdges a.watch vertex).1 := by
  cases vertex with
  | none =>
      exact .of_stores_eq (fun kind => by cases kind <;> rfl) (h.keeps.warn .noVertex t)
        (h.flag_warn .noVertex t.observers)
  | some vertex =>
      have hvertices := h.removes_mutate .vertices [some vertex] t
      simp only [Topology.removeWithEdges]
      split
      · exact hvertices.trans (h.removes_mutate .edges _ _)
      · exact hvertices

theorem removes_removeAllWithEdges (h : a.Flagged keeper flag) (vertices : List (Option Key))
    (t : Topology O) : a.Removes keeper flag t (t.removeAllWithEdges a.watch vertices).1 := by
  induction vertices generalizing t with
  | nil => exact .of_stores_eq (fun _ => rfl) (.refl _) rfl
  | cons vertex vertices ih =>
      have hremoves := h.removes_removeWithEdges vertex t
      rw [Topology.removeAllWithEdges]
      split
      · rename_i heq
        rw [heq] at hremoves
        exact hremoves
      · rename_i heq
        rw [heq] at hremoves
        exact hremoves.trans (ih _)

theorem raised_reset (h : a.Flagged keeper flag) (ht : a.Attends keeper t.observers) (p : Nat) :
    flag (t.reset a.watch p).observers = true := by
  have hvertices : flag (t.clearVertices a.watch).observers = true :=
    (h.raised_mutate_iff ht .vertices .clear).mpr (.inr trivial)
  exact (h.persists_mutate .edges .clear (t.clearVertices a.watch)).raised hvertices

theorem raised_connect_iff (h : a.Flagged keeper flag) (ht : a.Attends keeper t.observers)
    (p : Nat) (source target : Option Key) :
    flag (t.connect a.watch p source target).1.observers = true ↔
      flag t.observers = true ∨ ∃ e, (t.connect a.watch p source target).2 = .ok (some e) := by
  by_cases hmissing : source = none ∨ target = none
  · obtain ⟨warning, hconnect⟩ := Topology.connect_of_missing hmissing a.watch p t
    have hflag : flag (t.warn a.watch warning).observers = flag t.observers :=
      h.flag_warn warning t.observers
    simp [hconnect, hflag]
  · obtain ⟨hsource, htarget⟩ := not_or.mp hmissing
    obtain ⟨source, rfl⟩ := Option.ne_none_iff_exists'.mp hsource
    obtain ⟨target, rfl⟩ := Option.ne_none_iff_exists'.mp htarget
    cases hid : (t.nextEdgeId p).2 with
    | error fault =>
        have hflag : flag (t.nextEdgeId p).1.observers = flag t.observers := rfl
        simp [Topology.connect_of_next_error hid, hflag]
    | ok id =>
        rw [Topology.connect_of_next_ok hid]
        refine iff_of_true ?_ (.inr ⟨_, rfl⟩)
        apply (h.raised_mutate_iff (t := (t.nextEdgeId p).1) ht .edges (.add _)).mpr
        exact .inr ⟨_, List.mem_singleton.mpr rfl, t.edges_ns.symm⟩

/-- Unless there is nothing to rebuild from, a rebuild raises the flag. -/
theorem raised_refresh (h : a.Flagged keeper flag) (ht : a.Attends keeper t.observers) (p : Nat)
    {g : Graph} {vertices : List Vertex}
    (hvertices : Graph.toVertices t.ns g.nodes = .ok vertices) :
    flag (t.refresh a.watch p (.ok g)).1.observers = true := by
  have hconvert : (Except.ok g >>= Topology.convert t.ns : Except Fault _) =
      .ok (vertices, g.toConnections t.ns) := Topology.convert_of_ok hvertices
  have hfilled := h.persists_mutate .vertices (.add (vertices.map fun v => some (.vertex v)))
    (t.reset a.watch p)
  rw [Topology.refresh, hconvert]
  exact (hfilled.trans (h.keeps.connectAll p _ _)).raised (h.raised_reset ht p)

theorem raised_refresh_iff (h : a.Flagged keeper flag) (ht : a.Attends keeper t.observers)
    {p : Nat} (hp : p < t.providers.length) {loaded : Except Fault Graph}
    (hfew : Numberable loaded) :
    flag (t.refresh a.watch p loaded).1.observers = true ↔
      flag t.observers = true ∨ (t.refresh a.watch p loaded).2 = .ok () := by
  rcases unusable_or_exists_vertices t.ns loaded with hunusable | ⟨g, vertices, rfl, hvertices⟩
  · obtain ⟨fault, hrefresh⟩ := Topology.refresh_of_unusable hunusable p t
    simp [hrefresh]
  · refine iff_of_true (h.raised_refresh ht p hvertices) (.inr ?_)
    rcases h.aloof.quiet.refresh_of_vertices hp hvertices with
      ⟨t', hrefresh, -⟩ | ⟨t', fault, -, -, hmany⟩
    · rw [hrefresh]
    · exact absurd (hfew g rfl) (Nat.not_lt.mpr hmany)

theorem raised_perform_iff (h : a.Flagged keeper flag) (ht : a.Attends keeper t.observers)
    {op : Operation} (hop : op.Feasible t.providers.length) :
    flag (op.perform a.watch t).1.observers = true ↔
      flag t.observers = true ∨ op.Effective a.watch t := by
  cases op with
  | mutate kind m => exact h.raised_mutate_iff ht kind m
  | connect p source target => exact h.raised_connect_iff ht p source target
  | removeWithEdges vertices => exact (h.removes_removeAllWithEdges vertices t).raised_iff ht
  | reset p => exact iff_of_true (h.raised_reset ht p) (.inr trivial)
  | refresh p loaded => exact h.raised_refresh_iff ht hop.1 hop.2
  | clearCounters p => exact (or_false _).symm ▸ Iff.rfl
  | nextVertexId p => exact (or_false _).symm ▸ Iff.rfl
  | nextEdgeId p => exact (or_false _).symm ▸ Iff.rfl

end Flagged

end Attendance

/-- An operation that fails has no effect, but for a removal that comes upon something
else than an edge among the edges. -/
theorem Operation.not_effective_of_error {watch : Observation O} (hquiet : watch.Quiet)
    {op : Operation} {t : Topology O} {fault : Fault}
    (hfails : (op.perform watch t).2 = .error fault)
    (hedges : ∀ vertices, op = .removeWithEdges vertices →
      ∃ es : List Edge, t.edges.entries = es.map .edge) : ¬ op.Effective watch t := by
  cases op with
  | mutate kind m => cases hfails
  | connect p source target =>
      rintro ⟨e, he⟩
      change (t.connect watch p source target).2.map Result.edge = .error fault at hfails
      rw [he] at hfails
      cases hfails
  | removeWithEdges vertices =>
      obtain ⟨es, hes⟩ := hedges vertices rfl
      obtain ⟨t', hremoved, -⟩ := (Topology.Cleared.nil hes).run hquiet vertices
      rw [perform, hremoved] at hfails
      cases hfails
  | reset p => cases hfails
  | refresh p loaded =>
      intro hok
      rw [Effective] at hok
      change (t.refresh watch p loaded).2.map (fun _ => Result.nothing) = .error fault at hfails
      rw [hok] at hfails
      cases hfails
  | clearCounters p | nextVertexId p | nextEdgeId p => exact id

/-- No operation makes or removes a provider. -/
theorem Observation.Quiet.keeps_length {watch : Observation O} (h : watch.Quiet) :
    watch.Keeps fun t t' => t'.providers.length = t.providers.length where
  refl _ := rfl
  trans h h' := h'.trans h
  warn _ _ := rfl
  mutate kind m t := congrArg List.length (h.providers_mutate kind m t)
  clearCounters _ _ := List.length_set
  nextVertexId _ _ := List.length_set
  nextEdgeId _ _ := List.length_set

/-! ## The interface of a session -/

namespace Session

/-- From one state of the surroundings to another, the interface has stayed registered
and has forgotten nothing. -/
abbrev Surroundings.Recalls (o o' : Surroundings) : Prop :=
  Persists (fun kind o => o.subscribers kind) Subscriber.api touched o o'

namespace Surroundings

theorem recalls_setSubscribers (o : Surroundings) {kind : StoreKind}
    {subscribers : List Subscriber}
    (h : Subscriber.api ∈ o.subscribers kind → Subscriber.api ∈ subscribers) :
    Recalls o (o.setSubscribers kind subscribers) := by
  cases kind with
  | vertices =>
      refine ⟨fun other => ?_, id⟩
      cases other with
      | vertices => exact h
      | edges => exact id
  | edges =>
      refine ⟨fun other => ?_, id⟩
      cases other with
      | vertices => exact id
      | edges => exact h

theorem recalls_subscribe (o : Surroundings) (kind : StoreKind) (subscriber : Subscriber) :
    Recalls o (o.subscribe kind subscriber) := by
  apply recalls_setSubscribers
  intro h
  rw [Registry.add]
  split
  · exact h
  · exact List.mem_append_left _ h

theorem recalls_unsubscribe (o : Surroundings) (kind : StoreKind) (name : String) :
    Recalls o (o.unsubscribe kind (.listener name)) :=
  recalls_setSubscribers o fun h => List.mem_filter.mpr ⟨h, rfl⟩

end Surroundings

open Surroundings (Recalls recalls_subscribe recalls_unsubscribe)

/-- A way to perform steps that lets the interface be when listeners are registered or
removed. -/
def Performer.Considerate (perform : Performer) : Prop :=
  ∀ step t, step.command.isRegistration = true →
    Recalls t.observers (perform step t).1.observers

theorem recalls_onKnown (s : Session) (name : String)
    {change : Subscriber → Surroundings → Surroundings}
    (h : ∀ o, Recalls o (change (.listener name) o)) (t : Topology Surroundings) :
    Recalls t.observers (s.onKnown name change t).1.observers := by
  rw [onKnown]
  split
  · exact h t.observers
  · exact .refl _

theorem considerate_perform (s : Session) (watch : Observation Surroundings) :
    Performer.Considerate (s.perform watch) := by
  intro step t hregistration
  have hexecute : Recalls (setJournal {} t).observers
      (s.execute watch step (setJournal {} t)).1.observers := by
    rw [execute]
    split
    · cases hcommand : step.command with
      | listen kind name => exact s.recalls_onKnown name (fun o => recalls_subscribe o kind _) _
      | unlisten kind name => exact s.recalls_onKnown name (fun o => recalls_unsubscribe o kind _) _
      | _ =>
          rw [hcommand] at hregistration
          cases hregistration
    · exact .refl _
  exact ⟨hexecute.attends, hexecute.raised⟩

variable {perform : Performer}

theorem Performer.Considerate.performAll (h : perform.Considerate) {steps : List Step}
    (hsteps : ∀ step ∈ steps, step.command.isRegistration = true)
    (t : Topology Surroundings) :
    Recalls t.observers (Session.performAll perform steps t).1.observers := by
  induction steps generalizing t with
  | nil => exact .refl _
  | cons step steps ih =>
      obtain ⟨hstep, hrest⟩ := List.forall_mem_cons.mp hsteps
      exact (h step t hstep).trans (ih hrest _)

theorem Performer.Considerate.callListener (h : perform.Considerate) {l : Listener}
    (hsteps : ∀ step ∈ l.steps, step.command.isRegistration = true) (kind : StoreKind)
    (event : ChangeEvent) (t : Topology Surroundings) :
    Recalls t.observers (Session.callListener perform kind event l t).1.observers := by
  simp only [Session.callListener]
  split
  · have hperformed := h.performAll hsteps
      { t with observers := t.observers.countRun l.name }
    exact ⟨hperformed.attends, hperformed.raised⟩
  · exact ⟨fun _ => id, id⟩

theorem RegistersOnly.flagged {s : Session} (hs : s.RegistersOnly) (h : perform.Harmless)
    (h' : perform.Considerate) :
    (s.attendance perform).Flagged .api Surroundings.touched where
  aloof := hs.aloof h
  raises _ _ _ := rfl
  call kind event subscriber t := by
    change Recalls t.observers (s.call perform kind event subscriber t).1.observers
    cases subscriber with
    | api => exact ⟨fun _ => id, fun _ => rfl⟩
    | listener name =>
        rw [call]
        cases hlistener : s.listener? name with
        | none => exact .refl _
        | some l =>
            exact h'.callListener (hs l (List.mem_of_find?_eq_some hlistener)) kind event t
  report _ _ _ := ⟨fun _ => id, id⟩
  warn _ _ := ⟨fun _ => id, id⟩
  flag_warn _ _ := rfl

/-- In a session whose listeners register and remove listeners, the interface keeps a
flag. -/
theorem RegistersOnly.exists_flagged {s : Session} (hs : s.RegistersOnly) (depth : Nat) :
    ∃ a : Attendance Subscriber Surroundings, a.Flagged .api Surroundings.touched ∧
      s.watch depth = a.watch ∧ a.registered = fun kind o => o.subscribers kind := by
  cases depth with
  | zero =>
      exact ⟨_, hs.flagged (fun _ _ _ => rfl) (fun _ _ _ => .refl _), s.observe_eq_watch _,
        rfl⟩
  | succ depth =>
      exact ⟨_, hs.flagged (s.harmless_perform (s.watch depth))
        (s.considerate_perform (s.watch depth)), s.observe_eq_watch _, rfl⟩

end Session

end NetworkTopology
