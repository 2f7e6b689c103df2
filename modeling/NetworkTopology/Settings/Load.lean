import NetworkTopology.Settings.Coercion
import NetworkTopology.Settings.Environment

/-!
# Loading settings

Settings are the defaults, with the environment over them and explicit overrides over both.  All
fields are checked, so a refusal names every setting that is refused.
-/

namespace NetworkTopology

/-- A checked value, or all problems that were found. -/
abbrev Checked (α : Type) := Except (List Problem) α

namespace Checked

variable {α β : Type}

/-- Checks two values; the problems of both are kept. -/
def both (x : Checked α) (y : Checked β) : Checked (α × β) :=
  match x, y with
  | .ok a, .ok b => .ok (a, b)
  | .ok _, .error q => .error q
  | .error p, .ok _ => .error p
  | .error p, .error q => .error (p ++ q)

end Checked

namespace Settings

def sections : List (String × List String) :=
  [("logging", ["level", "format"]),
    ("topology", ["namespace", "vertex_id_prefix", "edge_id_prefix"]),
    ("api", ["host", "port", "debug"])]

/-- The fields of a section that is there; a section that is absent has none. -/
def sectionFields (document : Fields) (name : String) : Checked Fields :=
  match Fields.get? document name with
  | none => .ok []
  | some (.obj fields) => .ok fields
  | some _ => .error [{ location := [name], refusal := .modelType }]

/-- Checks a field; one that is absent has its default. -/
def field {α : Type} (sectionName : String) (fields : Fields) (name : String)
    (read : Json → Except Refusal α) (default : α) : Checked α :=
  match Fields.get? fields name with
  | none => .ok default
  | some value =>
    match read value with
    | .ok a => .ok a
    | .error refusal => .error [{ location := [sectionName, name], refusal }]

def checkApi (document : Fields) : Checked ApiSettings := do
  let fields ← sectionFields document "api"
  let standard : ApiSettings := {}
  let (debug, host, portNumber) ←
    (field "api" fields "debug" Coercion.boolean standard.debug).both
      ((field "api" fields "host" Coercion.string standard.host).both
        (field "api" fields "port" Coercion.portNumber
          ⟨standard.portNumber, standard.port_in_range⟩))
  return { host, portNumber := portNumber.1, port_in_range := portNumber.2, debug }

def checkLogging (document : Fields) : Checked LoggingSettings := do
  let fields ← sectionFields document "logging"
  let standard : LoggingSettings := {}
  let (format, level) ←
    (field "logging" fields "format" Coercion.string standard.format).both
      (field "logging" fields "level" Coercion.logLevel standard.level)
  return { level, format }

def checkTopology (document : Fields) : Checked TopologySettings := do
  let fields ← sectionFields document "topology"
  let standard : TopologySettings := {}
  let (edgeStem, ns, vertexStem) ←
    (field "topology" fields "edge_id_prefix" Coercion.string standard.edgeStem).both
      ((field "topology" fields "namespace" Coercion.nonEmpty ⟨standard.ns, standard.ns_ne⟩).both
        (field "topology" fields "vertex_id_prefix" Coercion.string standard.vertexStem))
  return { ns := ns.1, ns_ne := ns.2, vertexStem, edgeStem }

/-- Checks all settings; problems are listed by the names of section and field. -/
def check (document : Fields) : Except Fault Settings :=
  match (checkApi document).both ((checkLogging document).both (checkTopology document)) with
  | .ok (api, logging, topology) => .ok { logging, topology, api }
  | .error problems => .error (.invalidSettings problems)

/-- The sections that variables speak of. -/
def ofVariables (env : Environment) : List (String × List String) → Except Fault Fields
  | [] => .ok []
  | (name, known) :: rest => do
    let value ← Environment.readSection known name env
    let fields ← ofVariables env rest
    return match value with
      | some value => (name, value) :: fields
      | none => fields

/-- The override of a section: the first under its name, whatever the case. -/
def override? (overrides : Fields) (name : String) : Option Json :=
  (overrides.find? fun entry => Environment.lowerCase entry.1 == name).map fun entry => entry.2

/-- The overrides of all sections. -/
def ofOverrides (overrides : Fields) : Fields :=
  sections.filterMap fun known => (override? overrides known.1).map fun value => (known.1, value)

/-- Loads the settings from the environment and from overrides. -/
def load (env : Environment) (overrides : Fields) : Except Fault Settings := do
  let set ← ofVariables env.normalize sections
  check (Json.overlayFields set (ofOverrides overrides))

/-- Settings that are loaded once: the first that could be loaded are kept. -/
def loadOnce (env : Environment) (kept : Option Settings) :
    Option Settings × Except Fault Settings :=
  match kept with
  | some settings => (kept, .ok settings)
  | none =>
    match load env [] with
    | .ok settings => (some settings, .ok settings)
    | .error fault => (none, .error fault)

end Settings

end NetworkTopology
