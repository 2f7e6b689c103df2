import NetworkTopology.Proofs.Topology.Operation
import NetworkTopology.Registry

/-!
# Keeping a copy of a store by its events

A listener that stands first in the registry of a store is told of a change
before any other listener can react to it.  If it keeps a copy of the content
and applies each event to it, the copy is the content of the store at each of
its calls and at the end, however deep other listeners call back.  Each mutation
that touches a store tells it exactly once of itself.
-/

namespace NetworkTopology

variable {O : Type}

/-! ## Taking notes -/

/-- A note of a call: the event, and the content of the store at that moment. -/
structure Note where
  event : ChangeEvent
  content : List Entity

/-- The state of observers the first of whom takes notes, for each store. -/
structure Noted (O : Type) where
  notes : StoreKind → List Note := fun _ => []
  others : O

/-- Nothing was noted and no note was lost. -/
def Noted.SameNotes (o o' : Noted O) : Prop :=
  o'.notes = o.notes

namespace Topology

abbrev content (t : Topology O) (kind : StoreKind) : List Entity :=
  (t.store kind).entries

abbrev notes (t : Topology (Noted O)) (kind : StoreKind) : List Note :=
  t.observers.notes kind

def takeNote (kind : StoreKind) (event : ChangeEvent) (t : Topology (Noted O)) :
    Topology (Noted O) :=
  { t with
    observers :=
      { t.observers with
        notes := fun other =>
          if other = kind then t.notes kind ++ [⟨event, t.content kind⟩] else t.notes other } }

@[simp] theorem notes_takeNote (kind : StoreKind) (event : ChangeEvent)
    (t : Topology (Noted O)) :
    (t.takeNote kind event).notes kind = t.notes kind ++ [⟨event, t.content kind⟩] :=
  if_pos rfl

theorem notes_takeNote_of_ne {kind other : StoreKind} (h : other ≠ kind)
    (event : ChangeEvent) (t : Topology (Noted O)) :
    (t.takeNote kind event).notes other = t.notes other :=
  if_neg h

@[simp] theorem content_takeNote (kind other : StoreKind) (event : ChangeEvent)
    (t : Topology (Noted O)) : (t.takeNote kind event).content other = t.content other := by
  cases other <;> rfl

end Topology

/-! ## Registries whose first listener takes notes -/

/-- The listeners that stand after the first in the registry of a store, what
they do to the topology when they are called and whether they fail, and how
failures and warnings are remembered. -/
structure Audience (L O : Type) where
  listeners : StoreKind → O → List L
  call : L → StoreKind → ChangeEvent → Topology (Noted O) → Topology (Noted O) × Bool
  report : L → Noted O → Noted O
  onWarning : Warning → Noted O → Noted O

namespace Audience

variable {L : Type}

/-- Calls a listener; the one without a name takes a note. -/
def called (a : Audience L O) (kind : StoreKind) (event : ChangeEvent) :
    Option L → Topology (Noted O) → Topology (Noted O) × Bool
  | none, t => (t.takeNote kind event, false)
  | some listener, t => a.call listener kind event t

/-- Remembers that a listener failed. -/
def reported (a : Audience L O) (listener : Option L) (t : Topology (Noted O)) :
    Topology (Noted O) :=
  { t with observers := (listener.elim id a.report) t.observers }

/-- Announces an event to whoever is registered when it occurs. -/
def announce (a : Audience L O) (kind : StoreKind) (event : ChangeEvent)
    (t : Topology (Noted O)) : Topology (Noted O) :=
  (Registry.announce (a.called kind event) a.reported
    (none :: (a.listeners kind t.observers.others).map some) t).1

/-- The observers of a topology that announces its events. -/
def watch (a : Audience L O) : Observation (Noted O) :=
  { onVertices := a.announce .vertices, onEdges := a.announce .edges
    onWarning := a.onWarning }

/-- The first listener is called before the others. -/
theorem on_watch (a : Audience L O) (kind : StoreKind) (event : ChangeEvent)
    (t : Topology (Noted O)) :
    a.watch.on kind event t =
      (Registry.announce (a.called kind event) a.reported
        ((a.listeners kind t.observers.others).map some) (t.takeNote kind event)).1 := by
  cases kind <;> rfl

theorem runs_announce {a : Audience L O} {inner : Observation (Noted O)} {kind : StoreKind}
    {event : ChangeEvent}
    (reports : ∀ listener o, Noted.SameNotes o (a.report listener o))
    (calls : ∀ listener t, Runs Noted.SameNotes inner t (a.call listener kind event t).1)
    (listeners : List L) (t : Topology (Noted O)) :
    Runs Noted.SameNotes inner t
      (Registry.announce (a.called kind event) a.reported (listeners.map some) t).1 := by
  induction listeners generalizing t with
  | nil => exact Runs.refl t
  | cons listener listeners ih =>
      have hcall := calls listener t
      rw [List.map_cons, Registry.announce]
      split
      · rename_i after heq
        have hafter : (a.call listener kind event t).1 = after := congrArg Prod.fst heq
        rw [hafter] at hcall
        exact hcall.trans (ih after)
      · rename_i after heq
        have hafter : (a.call listener kind event t).1 = after := congrArg Prod.fst heq
        rw [hafter] at hcall
        exact (hcall.remember (reports listener _)).trans (ih _)

/-- Listeners whose calls are runs that an inner audience is told of make an
audience in turn. -/
theorem reentrant {a : Audience L O} {inner : Observation (Noted O)}
    (h : inner.Reentrant Topology.takeNote Noted.SameNotes)
    (warns : ∀ warning o, Noted.SameNotes o (a.onWarning warning o))
    (reports : ∀ listener o, Noted.SameNotes o (a.report listener o))
    (calls : ∀ listener kind event t,
      Runs Noted.SameNotes inner t (a.call listener kind event t).1) :
    a.watch.Reentrant Topology.takeNote Noted.SameNotes := by
  refine .nested h warns ?_
  intro kind event t
  rw [on_watch]
  exact runs_announce reports (fun listener t => calls listener kind event t) _ _

/-- Listeners that leave the topology alone make a passive audience. -/
theorem passive {a : Audience L O}
    (warns : ∀ warning o, Noted.SameNotes o (a.onWarning warning o))
    (reports : ∀ listener o, Noted.SameNotes o (a.report listener o))
    (calls : ∀ listener kind event t, ∃ o, Noted.SameNotes t.observers o ∧
      (a.call listener kind event t).1 = { t with observers := o }) :
    a.watch.Passive Topology.takeNote Noted.SameNotes := by
  refine ⟨warns, ?_⟩
  intro kind event t
  rw [on_watch]
  generalize t.takeNote kind event = t'
  induction (a.listeners kind t.observers.others) generalizing t' with
  | nil => exact ⟨t'.observers, rfl, rfl⟩
  | cons listener listeners ih =>
      obtain ⟨o, hsame, hcall⟩ := calls listener kind event t'
      rw [List.map_cons, Registry.announce]
      split
      · rename_i after heq
        have hafter : (a.call listener kind event t').1 = after := congrArg Prod.fst heq
        obtain ⟨o', hsame', hrest⟩ := ih after
        rw [← hafter, hcall] at hsame' hrest
        exact ⟨o', hsame'.trans hsame, by rw [← hafter, hcall]; exact hrest⟩
      · rename_i after heq
        have hafter : (a.call listener kind event t').1 = after := congrArg Prod.fst heq
        obtain ⟨o', hsame', hrest⟩ := ih (a.reported (some listener) after)
        rw [← hafter, hcall] at hsame' hrest
        exact ⟨o', hsame'.trans ((reports listener o).trans hsame),
          by rw [← hafter, hcall]; exact hrest⟩

end Audience

/-! ## Copies that follow the content -/

/-- A copy that follows the content by notes: applied to it, each event makes
the content at that call, and at the end the copy is the content.  Each event
accounts for the change of the number of entities. -/
def Follows : List Entity → List Note → List Entity → Prop
  | copy, [], content => copy = content
  | copy, note :: notes, content =>
      note.event.replay copy = note.content ∧
        note.content.length + note.event.removed.length =
          copy.length + note.event.added.length ∧
        Follows note.content notes content

theorem Follows.append {copy middle content : List Entity} {front back : List Note}
    (h : Follows copy front middle) (h' : Follows middle back content) :
    Follows copy (front ++ back) content := by
  induction front generalizing copy with
  | nil =>
      cases h
      exact h'
  | cons note notes ih =>
      obtain ⟨hreplay, hsize, hrest⟩ := h
      exact ⟨hreplay, hsize, ih hrest⟩

/-- From one topology to another, further notes were taken by which copies of
both stores follow their content. -/
def Advances (t t' : Topology (Noted O)) : Prop :=
  ∀ kind, ∃ heard, t'.notes kind = t.notes kind ++ heard ∧
    Follows (t.content kind) heard (t'.content kind)

namespace Advances

variable {t t' t'' : Topology (Noted O)}

theorem of_same (hstore : ∀ kind, t'.content kind = t.content kind)
    (hnotes : t'.observers.notes = t.observers.notes) : Advances t t' := by
  intro kind
  refine ⟨[], ?_, (hstore kind).symm⟩
  rw [List.append_nil, Topology.notes, hnotes]

theorem trans (h : Advances t t') (h' : Advances t' t'') : Advances t t'' := by
  intro kind
  obtain ⟨front, hfront, hfollows⟩ := h kind
  obtain ⟨back, hback, hfollows'⟩ := h' kind
  refine ⟨front ++ back, ?_, hfollows.append hfollows'⟩
  rw [hback, hfront, List.append_assoc]

end Advances

/-! ## One mutation -/

/-- Warnings leave the notes alone. -/
theorem notes_foldl_warnings {watch : Observation (Noted O)}
    (warns : ∀ warning o, Noted.SameNotes o (watch.onWarning warning o))
    (warnings : List Warning) (o : Noted O) :
    (warnings.foldl (fun o warning => watch.onWarning warning o) o).notes = o.notes := by
  induction warnings generalizing o with
  | nil => rfl
  | cons warning warnings ih =>
      rw [List.foldl_cons, ih]
      exact warns warning o

theorem Topology.Committed.notes_eq {watch : Observation (Noted O)} {kind : StoreKind}
    {m : Store.Mutation} {t committed : Topology (Noted O)}
    (warns : ∀ warning o, Noted.SameNotes o (watch.onWarning warning o))
    (h : Topology.Committed watch kind m t committed) :
    committed.observers.notes = t.observers.notes := by
  obtain ⟨warnings, hwarned⟩ := h.warned
  rw [hwarned]
  exact notes_foldl_warnings warns warnings _

theorem mutate_of_no_event {watch : Observation (Noted O)} {kind : StoreKind}
    {m : Store.Mutation} {t : Topology (Noted O)}
    (warns : ∀ warning o, Noted.SameNotes o (watch.onWarning warning o))
    (h : (t.store kind).event? m = none) :
    (∀ other, (t.mutate watch kind m).content other = t.content other) ∧
      (t.mutate watch kind m).observers.notes = t.observers.notes := by
  obtain ⟨committed, hcommitted, hmutate⟩ := t.exists_committed watch kind m
  rw [h] at hmutate
  rw [hmutate]
  refine ⟨?_, hcommitted.notes_eq warns⟩
  intro other
  by_cases hother : other = kind
  · rw [hother, Topology.content, hcommitted.store_eq]
    exact Store.entries_mutate_of_event?_eq_none h
  · rw [Topology.content, hcommitted.other_eq other hother]

/-- A mutation that has an event is noted in the state that it led to, before the
observers react. -/
theorem mutate_of_event {watch : Observation (Noted O)} {kind : StoreKind}
    {m : Store.Mutation} {t : Topology (Noted O)} {event : ChangeEvent}
    (warns : ∀ warning o, Noted.SameNotes o (watch.onWarning warning o))
    (h : (t.store kind).event? m = some event) :
    ∃ committed, t.mutate watch kind m = watch.on kind event committed ∧
      committed.content kind = ((t.store kind).mutate m).entries ∧
      (∀ other, other ≠ kind → committed.content other = t.content other) ∧
      committed.observers.notes = t.observers.notes := by
  obtain ⟨committed, hcommitted, hmutate⟩ := t.exists_committed watch kind m
  rw [h] at hmutate
  refine ⟨committed, hmutate, ?_, ?_, hcommitted.notes_eq warns⟩
  · rw [Topology.content, hcommitted.store_eq]
  · intro other hother
    rw [Topology.content, hcommitted.other_eq other hother]

/-- If copies follow whatever observers do once the first of them took a note,
they follow a mutation. -/
theorem advances_mutate {watch : Observation (Noted O)}
    (warns : ∀ warning o, Noted.SameNotes o (watch.onWarning warning o))
    (reacts : ∀ kind event t, Advances (t.takeNote kind event) (watch.on kind event t))
    (kind : StoreKind) (m : Store.Mutation) (t : Topology (Noted O)) :
    Advances t (t.mutate watch kind m) := by
  cases hevent : (t.store kind).event? m with
  | none =>
      obtain ⟨hcontent, hnotes⟩ := mutate_of_no_event warns hevent
      exact Advances.of_same hcontent hnotes
  | some event =>
      obtain ⟨committed, hmutate, hcontent, hother, hnotes⟩ := mutate_of_event warns hevent
      rw [hmutate]
      intro k
      obtain ⟨heard, hheard, hfollows⟩ := reacts kind event committed k
      rw [Topology.content_takeNote] at hfollows
      by_cases hk : k = kind
      · subst hk
        refine ⟨⟨event, committed.content k⟩ :: heard, ?_, ?_, ?_, hfollows⟩
        · rw [hheard, Topology.notes_takeNote, Topology.notes, hnotes, List.append_assoc]
          rfl
        · rw [hcontent]
          exact Store.replay_event hevent
        · rw [hcontent]
          exact Store.size_event hevent
      · refine ⟨heard, ?_, ?_⟩
        · rw [hheard, Topology.notes_takeNote_of_ne hk, Topology.notes, hnotes]
        · rw [← hother k hk]
          exact hfollows

/-! ## Whole runs -/

/-- Copies follow a run if they follow each mutation in it. -/
theorem advances_evolves {watch : Observation (Noted O)} {t t' : Topology (Noted O)}
    (step : ∀ kind m t, Advances t (t.mutate watch kind m))
    (run : Evolves Noted.SameNotes watch t t') : Advances t t' := by
  induction run with
  | refl => exact Advances.of_same (fun _ => rfl) rfl
  | remember _ h ih =>
      exact ih.trans (Advances.of_same (fun kind => by cases kind <;> rfl) h)
  | generate _ providers ih =>
      exact ih.trans (Advances.of_same (fun kind => by cases kind <;> rfl) rfl)
  | mutate _ kind m ih => exact ih.trans (step kind m _)

theorem Observation.Passive.advances {watch : Observation (Noted O)}
    (h : watch.Passive Topology.takeNote Noted.SameNotes) (kind : StoreKind)
    (event : ChangeEvent) (t : Topology (Noted O)) :
    Advances (t.takeNote kind event) (watch.on kind event t) := by
  obtain ⟨o, hsame, heq⟩ := h.reacts kind event t
  rw [heq]
  exact Advances.of_same (fun other => by cases other <;> rfl) hsame

/-- By induction on the depth of nesting: copies follow everything that goes on
inside of a notification. -/
theorem Observation.Reentrant.advances {watch : Observation (Noted O)}
    (h : watch.Reentrant Topology.takeNote Noted.SameNotes) {t t' : Topology (Noted O)}
    (run : Evolves Noted.SameNotes watch t t') : Advances t t' := by
  induction h generalizing t t' with
  | passive h =>
      exact advances_evolves (advances_mutate h.warns h.advances) run
  | nested hinner warns reacts ih =>
      refine advances_evolves (advances_mutate warns ?_) run
      intro kind event t
      exact ih ((reacts kind event t).evolves hinner.warns)

/-- Whatever follows, the first note that is taken of a mutation is of the event and
of the content that the mutation led to. -/
theorem notes_mutate_of_event {watch : Observation (Noted O)}
    (h : watch.Reentrant Topology.takeNote Noted.SameNotes) {t : Topology (Noted O)}
    {kind : StoreKind} {m : Store.Mutation} {event : ChangeEvent}
    (hevent : (t.store kind).event? m = some event) :
    ∃ nested, (t.mutate watch kind m).notes kind =
      t.notes kind ++ ⟨event, ((t.store kind).mutate m).entries⟩ :: nested := by
  obtain ⟨committed, hmutate, hcontent, -, hnotes⟩ := mutate_of_event h.warns hevent
  have hreacts : Advances (committed.takeNote kind event) (watch.on kind event committed) := by
    cases h with
    | passive h => exact h.advances kind event committed
    | nested hinner _ reacts =>
        exact hinner.advances ((reacts kind event committed).evolves hinner.warns)
  obtain ⟨nested, hnested, -⟩ := hreacts kind
  refine ⟨nested, ?_⟩
  rw [hmutate, hnested, Topology.notes_takeNote, hcontent, Topology.notes, hnotes,
    List.append_assoc]
  rfl

/-- If nobody calls back, one note is taken of a mutation, of its own store, and
nothing else happens. -/
theorem Observation.Passive.mutate_of_event {watch : Observation (Noted O)}
    (h : watch.Passive Topology.takeNote Noted.SameNotes) {t : Topology (Noted O)}
    {kind : StoreKind} {m : Store.Mutation} {event : ChangeEvent}
    (hevent : (t.store kind).event? m = some event) :
    (t.mutate watch kind m).notes kind =
        t.notes kind ++ [⟨event, ((t.store kind).mutate m).entries⟩] ∧
      (t.mutate watch kind m).content kind = ((t.store kind).mutate m).entries ∧
      ∀ other, other ≠ kind →
        (t.mutate watch kind m).notes other = t.notes other ∧
        (t.mutate watch kind m).content other = t.content other := by
  obtain ⟨committed, hmutate, hcontent, hother, hnotes⟩ :=
    NetworkTopology.mutate_of_event h.warns hevent
  obtain ⟨o, hsame, heq⟩ := h.reacts kind event committed
  have hheard : ∀ k, (t.mutate watch kind m).notes k =
      (committed.takeNote kind event).notes k := by
    intro k
    rw [hmutate, heq, Topology.notes, Topology.notes, hsame]
  have hsameContent : ∀ k, (t.mutate watch kind m).content k = committed.content k := by
    intro k
    rw [hmutate, heq]
    cases k <;> rfl
  refine ⟨?_, ?_, ?_⟩
  · rw [hheard, Topology.notes_takeNote, hcontent, Topology.notes, hnotes]
  · rw [hsameContent, hcontent]
  · intro other hne
    refine ⟨?_, ?_⟩
    · rw [hheard, Topology.notes_takeNote_of_ne hne, Topology.notes, hnotes]
    · rw [hsameContent, hother other hne]

/-- A listener that stands first in its registry and applies every event that it
is told of to a copy of the content has the content at each of its calls and at
the end, through any operations and any nesting of callbacks of other listeners.
It is told of a call on its store exactly once if the call touches the store,
and of nothing else unless other listeners call back. -/
theorem replay_reconstructs_content {watch : Observation (Noted O)}
    (h : watch.Reentrant Topology.takeNote Noted.SameNotes) :
    (∀ t t' : Topology (Noted O), Runs Noted.SameNotes watch t t' → ∀ kind, ∃ heard,
      t'.notes kind = t.notes kind ++ heard ∧
      Follows (t.content kind) heard (t'.content kind)) ∧
    (∀ (t : Topology (Noted O)) (kind : StoreKind) (m : Store.Mutation),
      ¬ (t.store kind).Touches m →
      (∀ other, (t.mutate watch kind m).content other = t.content other) ∧
      (t.mutate watch kind m).observers.notes = t.observers.notes) ∧
    (∀ (t : Topology (Noted O)) (kind : StoreKind) (m : Store.Mutation),
      (t.store kind).Touches m → ∃ event nested,
      (t.mutate watch kind m).notes kind =
        t.notes kind ++ ⟨event, ((t.store kind).mutate m).entries⟩ :: nested ∧
      (watch.Passive Topology.takeNote Noted.SameNotes →
        nested = [] ∧
        (t.mutate watch kind m).content kind = ((t.store kind).mutate m).entries ∧
        ∀ other, other ≠ kind →
          (t.mutate watch kind m).notes other = t.notes other ∧
          (t.mutate watch kind m).content other = t.content other)) := by
  refine ⟨?_, ?_, ?_⟩
  · intro t t' run kind
    exact h.advances (run.evolves h.warns) kind
  · intro t kind m huntouched
    have hnone : (t.store kind).event? m = none := by
      rw [← Store.event?_isSome_iff, Option.not_isSome_iff_eq_none] at huntouched
      exact huntouched
    exact mutate_of_no_event h.warns hnone
  · intro t kind m htouches
    obtain ⟨event, hevent⟩ := Option.isSome_iff_exists.mp (Store.event?_isSome_iff.mpr htouches)
    by_cases hpassive : watch.Passive Topology.takeNote Noted.SameNotes
    · obtain ⟨hnotes, hrest⟩ := hpassive.mutate_of_event hevent
      exact ⟨event, [], hnotes, fun _ => ⟨rfl, hrest⟩⟩
    · obtain ⟨nested, hnotes⟩ := notes_mutate_of_event h hevent
      exact ⟨event, nested, hnotes, fun hp => absurd hp hpassive⟩

/-- An audience of none but the first listener. -/
def Audience.alone : Audience Unit Unit :=
  { listeners := fun _ _ => [], call := fun _ _ _ t => (t, false)
    report := fun _ o => o, onWarning := fun _ o => o }

/-- An audience in which a second listener clears the vertices and then fails,
whenever it is called. -/
def Audience.clearing : Audience Unit Unit :=
  { Audience.alone with
    listeners := fun _ _ => [()]
    call := fun _ _ _ t => (t.mutate Audience.alone.watch .vertices .clear, true) }

/-- An empty topology in which nothing was noted yet. -/
def Topology.unnoted : Topology (Noted Unit) :=
  .blank [] { others := () }

open NetworkTopology.Topology in
/-- A vertex is added and cleared before the call that added it returns: the
first listener is told of both, in order. -/
theorem replay_through_clearing_listener :
    ∃ heard, (unnoted.mutate Audience.clearing.watch .vertices
        (.add [some (.ref ⟨"n", "v1"⟩)])).notes .vertices = heard ∧
      heard.map Note.event =
        [{ ns := "n", added := [.ref ⟨"n", "v1"⟩] },
          { ns := "n", removed := [.ref ⟨"n", "v1"⟩], cleared := true }] ∧
      Follows [] heard [] := by
  have halone : Audience.alone.watch.Passive Topology.takeNote Noted.SameNotes := by
    refine Audience.passive (fun _ _ => rfl) (fun _ _ => rfl) ?_
    intro listener kind event t
    exact ⟨t.observers, rfl, rfl⟩
  have hclearing : Audience.clearing.watch.Reentrant Topology.takeNote Noted.SameNotes := by
    refine Audience.reentrant (.passive halone) (fun _ _ => rfl) (fun _ _ => rfl) ?_
    intro listener kind event t
    exact (Runs.refl t).perform (.mutate .vertices .clear)
  have hrun : Runs Noted.SameNotes Audience.clearing.watch unnoted _ :=
    (Runs.refl unnoted).perform (.mutate .vertices (.add [some (.ref ⟨"n", "v1"⟩)]))
  obtain ⟨heard, hnotes, hfollows⟩ :=
    (replay_reconstructs_content hclearing).1 unnoted _ hrun .vertices
  refine ⟨heard, hnotes, ?_, hfollows⟩
  rw [← List.nil_append heard, ← show unnoted.notes .vertices = [] from rfl, ← hnotes]
  rfl

end NetworkTopology
