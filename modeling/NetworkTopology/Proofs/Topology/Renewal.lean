import NetworkTopology.Proofs.IdGenerator.Step
import NetworkTopology.Proofs.Topology.Independence
import NetworkTopology.Session.Setup

/-!
# Providers as good as new

A reset leaves nothing behind of what went before: neither content nor its order, and
of the id generators only what they were made with.  So whatever follows goes as it
would with a new provider, down to the events that listeners are told.
-/

namespace NetworkTopology

variable {O O' : Type}

/-! ## New providers -/

/-- The only provider over two new stores. -/
def Provider.new (settings : TopologySettings) (info : ProviderInfo) (ns : Option String)
    (observers : O) : Except Fault (Topology O) := do
  let t ← assemble ns none none settings.ns observers
  return { t with providers := [Session.freshProvider settings info] }

/-- One provider over two empty stores. -/
def Provider.pristine (settings : TopologySettings) (info : ProviderInfo) (ns : String)
    (observers : O) : Topology O :=
  { vertices := .empty ns, edges := .empty ns, edges_ns := Store.empty_ns ns,
    providers := [Session.freshProvider settings info], observers }

theorem Provider.new_of_ne (settings : TopologySettings) (info : ProviderInfo) {ns : String}
    (h : ns ≠ "") (observers : O) :
    new settings info (some ns) observers = .ok (pristine settings info ns observers) := by
  have hns : ns.isEmpty = false := by simpa using h
  simp [new, pristine, assemble, chooseNamespace, Store.make, Option.filter, hns, bind,
    Except.bind, pure, Except.pure]

/-! ## What no history changes -/

theorem IdGenerator.reset_next {g : IdGenerator} {content : Except Fault (List String)}
    {taken : String → Except Fault Bool} : (g.next content taken).1.reset = g.reset :=
  congrArg (fun stem => ({ stem } : IdGenerator)) next_stem

/-- A provider with its generators as they were made. -/
def Provider.renewed (provider : Provider) : Provider :=
  { provider with
    vertexIds := provider.vertexIds.reset, edgeIds := provider.edgeIds.reset }

/-- From one topology to another, the namespace and the providers stay, and of their
generators what they were made with. -/
structure Topology.Steady (t t' : Topology O) : Prop where
  ns_eq : t'.ns = t.ns
  renewed_eq : t'.providers.map Provider.renewed = t.providers.map Provider.renewed

namespace Topology

theorem Steady.setProvider {p : Nat} {provider : Provider} {t : Topology O}
    (h : provider.renewed = (t.provider p).renewed) : Steady t (t.setProvider p provider) := by
  refine ⟨rfl, ?_⟩
  change (t.providers.set p provider).map Provider.renewed = _
  by_cases hp : p < t.providers.length
  · rw [List.map_set, h, Topology.provider, List.getElem?_eq_getElem hp, Option.getD_some,
      ← List.getElem_map Provider.renewed, List.set_getElem_self]
    rwa [List.length_map]
  · rw [List.set_eq_of_length_le (Nat.le_of_not_lt hp)]

theorem Steady.mutate {watch : Observation O} (h : watch.Quiet) (kind : StoreKind)
    (m : Store.Mutation) (t : Topology O) : Steady t (t.mutate watch kind m) := by
  refine ⟨?_, congrArg _ (h.providers_mutate kind m t)⟩
  cases kind with
  | vertices =>
      have hstore := congrArg Store.ns (h.store_mutate .vertices m t)
      exact hstore.trans (Store.mutate_ns _ m)
  | edges => exact congrArg Store.ns (h.store_mutate_of_ne .edges .vertices (by decide) m t)

theorem Steady.keeps {watch : Observation O} (h : watch.Quiet) : watch.Keeps Steady where
  refl _ := ⟨rfl, rfl⟩
  trans h h' := ⟨h'.ns_eq.trans h.ns_eq, h'.renewed_eq.trans h.renewed_eq⟩
  warn _ _ := ⟨rfl, rfl⟩
  mutate kind m t := Steady.mutate h kind m t
  clearCounters p t := Steady.setProvider rfl
  nextVertexId p t := by
    refine Steady.setProvider (congrArg (fun ids => ({ t.provider p with
      vertexIds := ids, edgeIds := (t.provider p).edgeIds.reset } : Provider)) ?_)
    exact IdGenerator.reset_next
  nextEdgeId p t := by
    refine Steady.setProvider (congrArg (fun ids => ({ t.provider p with
      vertexIds := (t.provider p).vertexIds.reset, edgeIds := ids } : Provider)) ?_)
    exact IdGenerator.reset_next

/-- After any history, the only provider over its stores is reset to what it was when
it was new. -/
theorem reset_eq_pristine {watch : Observation O} (h : watch.Quiet) {settings : TopologySettings}
    {info : ProviderInfo} {start t : Topology O}
    (hprovider : start.providers = [Session.freshProvider settings info])
    (hsteady : Steady start t) :
    t.reset watch 0 =
      Provider.pristine settings info start.ns (t.reset watch 0).observers := by
  have hvertices : (t.reset watch 0).vertices = .empty start.ns :=
    (h.vertices_reset 0 t).trans (congrArg Store.empty hsteady.ns_eq)
  have hedges : (t.reset watch 0).edges = .empty start.ns :=
    (h.edges_reset 0 t).trans (congrArg Store.empty (t.edges_ns.trans hsteady.ns_eq))
  have hproviders : (t.reset watch 0).providers = [Session.freshProvider settings info] := by
    have hrenewed : t.providers.map Provider.renewed =
        [(Session.freshProvider settings info).renewed] := by
      rw [hsteady.renewed_eq, hprovider]
      rfl
    obtain ⟨provider, hproviders, hprovider⟩ := List.map_eq_singleton_iff.mp hrenewed
    rw [h.providers_reset, clearCounters, setProvider, Topology.provider, hproviders]
    exact congrArg (fun provider => [provider]) hprovider
  -- A topology holds a proof about its stores, so they are put in field by field.
  generalize t.reset watch 0 = after at *
  obtain ⟨vertices, edges, edges_ns, providers, observers⟩ := after
  obtain rfl := hvertices
  obtain rfl := hedges
  obtain rfl := hproviders
  rfl

end Topology

/-! ## What is told -/

/-- An event that listeners are told of, with the topology as it is just then. -/
structure Tiding where
  kind : StoreKind
  event : ChangeEvent
  seen : Topology Unit

/-- Observers in whose presence a record is kept of what they are told. -/
structure Recorded (O : Type) where
  told : List Tiding := []
  own : O

namespace Observation

/-- Nobody but who keeps the record. -/
def recorder : Observation (List Tiding) where
  onVertices event t :=
    { t with observers := t.observers ++ [{ kind := .vertices, event, seen := t.unobserved }] }
  onEdges event t :=
    { t with observers := t.observers ++ [{ kind := .edges, event, seen := t.unobserved }] }
  onWarning _ told := told

theorem recorder_quiet : recorder.Quiet := by
  intro kind event t
  cases kind <;> exact ⟨_, rfl⟩

/-- A record is kept of an event, and then the observers are told of it. -/
def recordedOn (watch : Observation O) (kind : StoreKind) (event : ChangeEvent)
    (t : Topology (Recorded O)) : Topology (Recorded O) :=
  let told := t.observers.told ++ [{ kind, event, seen := t.unobserved }]
  (watch.on kind event (t.mapObservers Recorded.own)).mapObservers fun own => { told, own }

/-- The same observers while a record is kept. -/
def recorded (watch : Observation O) : Observation (Recorded O) where
  onVertices := watch.recordedOn .vertices
  onEdges := watch.recordedOn .edges
  onWarning warning o := { o with own := watch.onWarning warning o.own }

/-- What observers are told that do not call back does not depend on who they are. -/
theorem Quiet.maps_recorder {watch : Observation O} (h : watch.Quiet) :
    watch.recorded.Maps Recorded.told recorder where
  warns _ _ := rfl
  reacts kind event t := by
    obtain ⟨o, heq⟩ := h kind event (t.mapObservers Recorded.own)
    have hrecorded : watch.recorded.on kind event t = watch.recordedOn kind event t := by
      cases kind <;> rfl
    rw [hrecorded, recordedOn, heq]
    cases kind <;> rfl

end Observation

def Topology.recording (t : Topology O) : Topology (Recorded O) :=
  t.mapObservers fun own => { own }

/-- The replies to interactions, and each time the topology and all events told so far. -/
def course (watch : Observation O) (is : List Interaction) (t : Topology O) :
    List (Topology (List Tiding) × Except Fault Interaction.Reply) :=
  (interact watch.recorded is t.recording).map fun served =>
    (served.1.mapObservers Recorded.told, served.2)

/-- A provider that is the only one over its stores, with any history behind it, and
listeners that do not call back: once it is reset it equals a new provider with the
same listeners, and whatever is done or asked next takes the same course with it as
with a new provider, whoever listens to that. -/
theorem reset_makes_new {watch : Observation O} (hquiet : watch.Quiet)
    {settings : TopologySettings} {info : ProviderInfo} {start t : Topology O}
    (hns : start.ns ≠ "")
    (hprovider : start.providers = [Session.freshProvider settings info])
    (history : Runs (fun _ _ => True) watch start t) :
    Provider.new settings info (some start.ns) (t.reset watch 0).observers =
        .ok (t.reset watch 0) ∧
      ∀ {O' : Type} {watch' : Observation O'}, watch'.Quiet → ∀ o' : O', ∃ new,
        Provider.new settings info (some start.ns) o' = .ok new ∧
        ∀ is, course watch is (t.reset watch 0) = course watch' is new := by
  have hsteady : Topology.Steady start t :=
    (Topology.Steady.keeps hquiet).runs (fun _ _ _ => ⟨rfl, rfl⟩) history
  have hreset := Topology.reset_eq_pristine hquiet hprovider hsteady
  constructor
  · rw [Provider.new_of_ne settings info hns, ← hreset]
  · intro O' watch' hquiet' o'
    refine ⟨_, Provider.new_of_ne settings info hns o', ?_⟩
    intro is
    have hcourse := hquiet.maps_recorder.interact is (t.reset watch 0).recording
    have hcourse' := hquiet'.maps_recorder.interact is
      (Provider.pristine settings info start.ns o').recording
    rw [hreset] at hcourse ⊢
    exact hcourse.trans hcourse'.symm

/-- A provider of the namespace `n` that has been refreshed and has given out an id. -/
def Topology.used : Topology (List Tiding) :=
  let start := Provider.pristine { ns := "n" } {} "n" []
  let refreshed := ((Operation.refresh 0 (.ok (.linked (.int 7)))).perform .recorder start).1
  ((Operation.nextVertexId 0).perform .recorder refreshed).1

/-- Of all it had, the provider keeps nothing, and its listener is told what one is told
who has heard nothing yet. -/
theorem used_reset_makes_new :
    Topology.used.vertices.ids = ["a", "b"] ∧ Topology.used.edges.ids = ["e0"] ∧
      (Topology.used.provider 0).vertexIds.initialized = true ∧
      (Topology.used.edgeIds 0).counter = 1 ∧ Topology.used.observers.length = 4 ∧
      ∃ new, Provider.new { ns := "n" } {} (some "n") () = .ok new ∧
        course .recorder Session.episode (Topology.used.reset .recorder 0) =
          course (.silent Unit) Session.episode new := by
  have hcontent : Topology.used.vertices.ids = ["a", "b"] ∧
      Topology.used.edges.ids = ["e0"] := by decide +kernel
  have hcounted : (Topology.used.provider 0).vertexIds.initialized = true ∧
      (Topology.used.edgeIds 0).counter = 1 := by decide +kernel
  have htold : Topology.used.observers.length = 4 := by decide +kernel
  have hhistory : Runs (fun _ _ => True) .recorder (Provider.pristine { ns := "n" } {} "n" [])
      Topology.used := ((Runs.refl _).perform _).perform _
  obtain ⟨-, hnew⟩ := reset_makes_new Observation.recorder_quiet
    (by decide : (Provider.pristine { ns := "n" } {} "n" ([] : List Tiding)).ns ≠ "") rfl hhistory
  obtain ⟨new, hmade, hcourse⟩ := hnew (Observation.silent_quiet Unit) ()
  exact ⟨hcontent.1, hcontent.2, hcounted.1, hcounted.2, htold, new, hmade, hcourse _⟩

end NetworkTopology
