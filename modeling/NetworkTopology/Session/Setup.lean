import NetworkTopology.Session.Run
import NetworkTopology.Settings.Load

/-!
# Setting a session up

A session begins with a bare store or with providers over two stores.  What a provider is given, be
it settings or stores, is made first, then the settings it was not given, and then the provider.
-/

namespace NetworkTopology.Session

/-- What a provider is made from. -/
structure ProviderSetup where
  /-- The namespace asked for. -/
  ns : Option String := none
  /-- The namespace of the vertex store that the provider is given. -/
  vertexStore : Option String := none
  /-- The namespace of the edge store that the provider is given. -/
  edgeStore : Option String := none
  /-- Overrides of the settings that the provider is given. -/
  overrides : Option Fields := none
  environment : Environment := []
  info : ProviderInfo := {}
  /-- The number of providers over the two stores. -/
  count : Nat := 1
  refreshment : Refreshment := .none
  /-- Is there a REST interface to the first provider? -/
  served : Bool := false

/-- What a session begins with. -/
inductive Setup where
  | store (kind : StoreKind) (ns : String)
  | providers (setup : ProviderSetup)
  /-- A provider that does not say how it refreshes. -/
  | incomplete

/-- The stores that exist from the point of view of a session. -/
def Setup.has : Setup → StoreKind → Bool
  | store kind _, other => kind == other
  | _, _ => true

/-- Whom a step is addressed to that names nobody but a number. -/
def Setup.target : Setup → Nat → Target
  | store kind _, _ => .store kind
  | _, number => .provider number

/-- The store of a kind as an addressee, if it is there. -/
def Setup.storeTarget (setup : Setup) (kind : StoreKind) : Target :=
  if setup.has kind then .store kind else .absent

def givenStore (kind : StoreKind) : Option String → Except Fault (Option Store)
  | none => .ok none
  | some ns => do return some (← Store.make kind ns)

/-- A provider with generators of its own. -/
def freshProvider (settings : TopologySettings) (info : ProviderInfo) : Provider :=
  { vertexIds := { stem := settings.vertexStem }, edgeIds := { stem := settings.edgeStem }, info }

/-- Makes the providers of a session. -/
def ProviderSetup.build (setup : ProviderSetup) : Except Fault (Topology Surroundings) := do
  let given ← match setup.overrides with
    | some overrides => some <$> Settings.load setup.environment overrides
    | none => pure none
  let vertices ← givenStore .vertices setup.vertexStore
  let edges ← givenStore .edges setup.edgeStore
  let settings ← match given with
    | some settings => pure settings
    | none => Settings.load setup.environment []
  let observers : Surroundings :=
    if setup.served then { onVertices := [.api], onEdges := [.api] } else {}
  let t ← Provider.assemble setup.ns vertices edges settings.topology.ns observers
  return { t with
    providers := List.replicate setup.count (freshProvider settings.topology setup.info) }

/-- Makes what a session begins with. -/
def Setup.build : Setup → Except Fault (Topology Surroundings)
  | store kind ns =>
    if ns.isEmpty then .error (.storeWithoutNamespace kind)
    else .ok { vertices := .empty ns, edges := .empty ns, edges_ns := rfl, observers := {} }
  | providers setup => setup.build
  | incomplete => .error .incompleteProvider

def Setup.session (setup : Setup) (listeners : List Listener) : Session :=
  match setup with
  | providers setup =>
    { listeners, refreshment := setup.refreshment, served := setup.served }
  | _ => { listeners }

/-- Sets a session up and runs its steps. -/
def Setup.run (setup : Setup) (listeners : List Listener) (steps : List Step) :
    Except Fault (Topology Surroundings × List Answer) := do
  let t ← setup.build
  return (setup.session listeners).run steps t

end NetworkTopology.Session
