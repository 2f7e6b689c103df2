import NetworkTopology.Proofs.Topology.Interaction
import NetworkTopology.Proofs.Topology.Refresh
import NetworkTopology.Session.Run

/-!
# Listeners that leave no trace

Listeners that do not call back may take note of events, fail, and register or remove
listeners, themselves included, as they like: for the topology it is as if nobody
listened at all.
-/

namespace NetworkTopology

variable {L L' O O' : Type}

/-! ## Topologies without their observers -/

/-- A topology with nobody around. -/
def Topology.unobserved (t : Topology O) : Topology Unit :=
  t.mapObservers fun _ => ()

/-- A topology with someone around. -/
def Topology.seenBy (o : O) (t : Topology Unit) : Topology O :=
  t.mapObservers fun _ => o

/-- What interactions led to, but for the observers. -/
def unobserved (trace : List (Topology O × Except Fault Interaction.Reply)) :
    List (Topology Unit × Except Fault Interaction.Reply) :=
  trace.map fun served => (served.1.unobserved, served.2)

theorem Topology.eq_of_unobserved_eq {t t' : Topology O} (h : t'.unobserved = t.unobserved) :
    t' = { t with observers := t'.observers } := by
  obtain ⟨vertices, edges, edges_ns, providers, observers⟩ := t
  obtain ⟨vertices', edges', edges_ns', providers', observers'⟩ := t'
  obtain ⟨rfl, rfl, rfl, -⟩ := Topology.mk.inj h
  rfl

/-- Observers that do not call back look like none. -/
theorem Observation.Quiet.maps_silent {watch : Observation O} (h : watch.Quiet) :
    watch.Maps (fun _ => ()) (.silent Unit) where
  warns _ _ := rfl
  reacts kind event t := by
    obtain ⟨o, heq⟩ := h kind event t
    rw [heq]
    cases kind <;> rfl

/-! ## Listeners -/

/-- The listeners of both stores, as far as their state tells: who is registered, what
one does when it is called and whether it fails, and what is then noted of that.  A call
comes back in any case: it fails with an error that the announcement catches. -/
structure Attendance (L O : Type) where
  registered : StoreKind → O → List L
  call : StoreKind → ChangeEvent → L → Topology O → Topology O × Bool
  report : ChangeEvent → L → O → O
  onWarning : Warning → O → O

namespace Attendance

/-- Calls listeners of a store in order. -/
def announceTo (a : Attendance L O) (kind : StoreKind) (event : ChangeEvent)
    (listeners : List L) (t : Topology O) : Topology O :=
  (Registry.announce (a.call kind event)
    (fun l t => { t with observers := a.report event l t.observers }) listeners t).1

/-- What the listeners do to the topology: those are called that are registered when
the event is announced. -/
def watch (a : Attendance L O) : Observation O where
  onVertices event t := a.announceTo .vertices event (a.registered .vertices t.observers) t
  onEdges event t := a.announceTo .edges event (a.registered .edges t.observers) t
  onWarning := a.onWarning

/-- Listeners that do not call back: to be called, they need the topology for nothing
but to look at it. -/
def Aloof (a : Attendance L O) : Prop :=
  ∀ kind event l t, (a.call kind event l t).1.unobserved = t.unobserved

variable {a : Attendance L O}

theorem unobserved_announceTo (kind : StoreKind) (event : ChangeEvent) {listeners : List L}
    (h : ∀ l ∈ listeners, ∀ t, (a.call kind event l t).1.unobserved = t.unobserved)
    (t : Topology O) : (a.announceTo kind event listeners t).unobserved = t.unobserved := by
  induction listeners generalizing t with
  | nil => rfl
  | cons l listeners ih =>
      obtain ⟨hhead, hrest⟩ := List.forall_mem_cons.mp h
      have hcall := hhead t
      simp only [announceTo, Registry.announce] at ih ⊢
      split
      · rename_i after heq
        rw [heq] at hcall
        exact (ih hrest after).trans hcall
      · rename_i after heq
        rw [heq] at hcall
        exact (ih hrest _).trans hcall

theorem Aloof.quiet (h : a.Aloof) : a.watch.Quiet := by
  intro kind event t
  refine ⟨_, Topology.eq_of_unobserved_eq ?_⟩
  cases kind with
  | vertices => exact unobserved_announceTo .vertices event (fun l _ t => h .vertices event l t) t
  | edges => exact unobserved_announceTo .edges event (fun l _ t => h .edges event l t) t

end Attendance

/-! ## The listeners of a session -/

namespace Session

/-- The listeners of a session, when their steps are performed in a given way. -/
def attendance (s : Session) (perform : Performer) : Attendance Subscriber Surroundings where
  registered kind o := o.subscribers kind
  call := s.call perform
  report event subscriber o := o.logged (.listenerFailed subscriber.name event.kind event.ns)
  onWarning warning o := o.logged (.warning warning)

theorem observe_eq_watch (s : Session) (perform : Performer) :
    s.observe perform = (s.attendance perform).watch := rfl

/-- Registers or removes a listener. -/
def Command.isRegistration : Command → Bool
  | listen .. | unlisten .. => true
  | _ => false

/-- Whatever its listeners do, they register and remove listeners. -/
def RegistersOnly (s : Session) : Prop :=
  ∀ l ∈ s.listeners, ∀ step ∈ l.steps, step.command.isRegistration = true

instance (s : Session) : Decidable s.RegistersOnly :=
  inferInstanceAs (Decidable (∀ l ∈ s.listeners, ∀ step ∈ l.steps,
    step.command.isRegistration = true))

/-- A way to perform steps that leaves the topology alone when listeners are
registered or removed. -/
def Performer.Harmless (perform : Performer) : Prop :=
  ∀ step t, step.command.isRegistration = true →
    (perform step t).1.unobserved = t.unobserved

theorem unobserved_onKnown (s : Session) (name : String)
    (change : Subscriber → Surroundings → Surroundings) (t : Topology Surroundings) :
    (s.onKnown name change t).1.unobserved = t.unobserved := by
  rw [onKnown]
  split <;> rfl

theorem harmless_perform (s : Session) (watch : Observation Surroundings) :
    Performer.Harmless (s.perform watch) := by
  intro step t hregistration
  have hexecute : (s.execute watch step (setJournal {} t)).1.unobserved = t.unobserved := by
    rw [execute]
    split
    · cases hcommand : step.command with
      | listen kind name => exact s.unobserved_onKnown name _ _
      | unlisten kind name => exact s.unobserved_onKnown name _ _
      | _ =>
          rw [hcommand] at hregistration
          cases hregistration
    · rfl
  exact hexecute

variable {perform : Performer}

theorem Performer.Harmless.performAll (h : perform.Harmless) {steps : List Step}
    (hsteps : ∀ step ∈ steps, step.command.isRegistration = true)
    (t : Topology Surroundings) :
    (Session.performAll perform steps t).1.unobserved = t.unobserved := by
  induction steps generalizing t with
  | nil => rfl
  | cons step steps ih =>
      have hstep := h step t (hsteps step List.mem_cons_self)
      exact (ih (fun other hm => hsteps other (List.mem_cons_of_mem _ hm)) _).trans hstep

theorem Performer.Harmless.callListener (h : perform.Harmless) {l : Listener}
    (hsteps : ∀ step ∈ l.steps, step.command.isRegistration = true) (kind : StoreKind)
    (event : ChangeEvent) (t : Topology Surroundings) :
    (Session.callListener perform kind event l t).1.unobserved = t.unobserved := by
  simp only [Session.callListener]
  split
  · exact h.performAll hsteps _
  · rfl

theorem RegistersOnly.aloof {s : Session} (hs : s.RegistersOnly) (h : perform.Harmless) :
    (s.attendance perform).Aloof := by
  intro kind event subscriber t
  change (s.call perform kind event subscriber t).1.unobserved = t.unobserved
  cases subscriber with
  | api => rfl
  | listener name =>
      rw [call]
      cases hlistener : s.listener? name with
      | none => rfl
      | some l =>
          exact h.callListener (hs l (List.mem_of_find?_eq_some hlistener)) kind event t

/-- However deep they may nest, listeners of a session that register and remove
listeners do not call back. -/
theorem RegistersOnly.exists_aloof {s : Session} (hs : s.RegistersOnly) (depth : Nat) :
    ∃ a : Attendance Subscriber Surroundings, a.Aloof ∧ s.watch depth = a.watch := by
  cases depth with
  | zero => exact ⟨_, hs.aloof fun _ _ _ => rfl, s.observe_eq_watch _⟩
  | succ depth =>
      exact ⟨_, hs.aloof (s.harmless_perform (s.watch depth)), s.observe_eq_watch _⟩

end Session

/-! ## Noninterference -/

/-- Whatever listeners do that do not call back, every reply of the topology, errors
included, and every state it passes through is what it would be with other such
listeners, or with none. -/
theorem aloof_listeners_leave_no_trace {a : Attendance L O} {b : Attendance L' O'}
    (ha : a.Aloof) (hb : b.Aloof) (o : O) (o' : O') (t : Topology Unit)
    (is : List Interaction) :
    unobserved (interact a.watch is (t.seenBy o)) =
        unobserved (interact b.watch is (t.seenBy o')) ∧
      unobserved (interact a.watch is (t.seenBy o)) = interact (.silent Unit) is t ∧
      unobserved (interact b.watch is (t.seenBy o')) = interact (.silent Unit) is t := by
  have halone : unobserved (interact a.watch is (t.seenBy o)) =
      interact (.silent Unit) is t :=
    ha.quiet.maps_silent.interact is (t.seenBy o)
  have halone' : unobserved (interact b.watch is (t.seenBy o')) =
      interact (.silent Unit) is t :=
    hb.quiet.maps_silent.interact is (t.seenBy o')
  exact ⟨halone.trans halone'.symm, halone, halone'⟩

namespace Session

/-- One listener fails, and the other removes it. -/
def quarrel : Session where
  listeners := [{ name := "first", fails := true },
    { name := "second"
      steps := [{ target := .store .vertices, command := .unlisten .vertices "first" }] }]

/-- A listener that takes notes. -/
def record : Session where
  listeners := [{ name := "third" }]

/-- A vertex is added, connected with itself, looked for and removed, and then
everything is reset. -/
def episode : List Interaction :=
  let key : Key := { ns := "n", id := "a" }
  [.operate (.mutate .vertices (.add [some (.vertex { key })])),
    .operate (.connect 0 (some key) (some key)),
    .ask (.attached (some key)) (.provider 0),
    .operate (.removeWithEdges [some key]),
    .operate (.reset 0)]

/-- What the episode leads to when the quarrel is around. -/
def quarrelled : List (Topology Surroundings × Except Fault Interaction.Reply) :=
  interact (quarrel.watch quarrel.depth) episode (Topology.provided.seenBy
    { onVertices := [.listener "second", .listener "first"], onEdges := [.listener "first"] })

/-- The one that fails is removed while both are told of the vertex, and goes on to be
told of the edge. -/
theorem quarrel_leaves_no_trace :
    quarrelled.map (fun served => served.1.observers.onVertices) =
        List.replicate 5 [.listener "second"] ∧
      quarrelled.map (fun served => served.1.observers.journal.log.length) =
        [1, 2, 2, 3, 4] ∧
      quarrelled.map (fun served => served.1.edges.ids) = [[], ["e0"], ["e0"], [], []] ∧
      unobserved quarrelled = unobserved (interact (record.watch record.depth) episode
        (Topology.provided.seenBy { onVertices := [.listener "third"] })) ∧
      unobserved quarrelled = interact (.silent Unit) episode .provided := by
  have hlisteners : quarrelled.map (fun served => served.1.observers.onVertices) =
      List.replicate 5 [.listener "second"] := by decide +kernel
  have hfailures : quarrelled.map (fun served => served.1.observers.journal.log.length) =
      [1, 2, 2, 3, 4] := by decide +kernel
  have hedges : quarrelled.map (fun served => served.1.edges.ids) =
      [[], ["e0"], ["e0"], [], []] := by decide +kernel
  have hquarrel : quarrel.RegistersOnly := by decide
  have hrecord : record.RegistersOnly := by decide
  obtain ⟨a, ha, hwatch⟩ := hquarrel.exists_aloof quarrel.depth
  obtain ⟨b, hb, hwatch'⟩ := hrecord.exists_aloof record.depth
  have hrun := aloof_listeners_leave_no_trace ha hb
    { onVertices := [.listener "second", .listener "first"], onEdges := [.listener "first"] }
    { onVertices := [.listener "third"] } .provided episode
  rw [← hwatch, ← hwatch'] at hrun
  exact ⟨hlisteners, hfailures, hedges, hrun.1, hrun.2.1⟩

end Session

end NetworkTopology
