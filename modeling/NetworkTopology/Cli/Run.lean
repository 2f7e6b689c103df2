import NetworkTopology.Cli.Command
import NetworkTopology.Cli.Output
import NetworkTopology.Cli.Report
import NetworkTopology.Graph.Source
import NetworkTopology.Settings.Load

/-!
# Running a command line

A command line is understood in two steps, with the settings loaded in between: first the command,
then its arguments.  The topology of the file is loaded before anything is printed, so a command
that fails prints nothing, unless it fails because a line cannot be encoded.
-/

namespace NetworkTopology.Cli

/-- A topology that is handed over to be served. -/
structure Service where
  host : String
  portNumber : Int
  debug : Bool
  ns : String
  vertices : Nat
  edges : Nat
  /-- The name of the provider. -/
  provider : Json
  deriving DecidableEq, Repr

/-- How a command ends. -/
inductive Ending where
  /-- The command line was not understood. -/
  | misused
  /-- The command failed. -/
  | failed (fault : Fault)
  /-- The command printed something, and possibly has something to serve.  One that could not print
  all of its lines has exit code 1; how that is reported is not part of the errors here. -/
  | finished (exitCode : Nat) (output errors : String) (service : Option Service)
  deriving Repr

def Ending.exitCode : Ending → Nat
  | misused => 2
  | failed _ => 1
  | finished code .. => code

/-- The ending of a command that prints lines, and then may have something to serve.  The first line
that cannot be encoded ends the command. -/
def Ending.ofLines (lines : List String) (service : Option Service := none) : Ending :=
  let printout := Printout.ofLines lines
  let output := String.ofList printout.characters
  if printout.isComplete then .finished 0 output "" service else .finished 1 output "" none

def versionLine : String := "topograph, version 0.1.0"

/-- Loads the topology of a file, named by its path. -/
def loadTopology (settings : Settings) (ns : Option String) (path : String)
    (source : GraphSource) : Except Fault (Topology Unit) := do
  let t ← Provider.assemble ns none none settings.topology.ns ()
  let provider : Provider := {
    vertexIds := { stem := settings.topology.vertexStem }
    edgeIds := { stem := settings.topology.edgeStem }
    info := { name := .str path } }
  let (t, result) := { t with providers := [provider] }.refresh (.silent Unit) 0 source.load
  result.map fun _ => t

def perform (settings : Settings) (t : Topology Unit) : Action → Except Fault Ending
  | .info => do return .ofLines (← infoLines t)
  | .edges ids =>
    match unknownIds t ids with
    | [] => do return .ofLines (← edgesLines t ids)
    | unknown => .ok (.finished 1 "" (errorText (unknownLine unknown)) none)
  | .select ids contentType => do
    let selected := (keysOf t ids).map fun key => some (Entity.vertexRef key)
    let selection ← t.select selected (ContentType.ofName contentType)
    return .ofLines (← selectionLines selection)
  | .matrix => do return .ofLines (matrixLines (← t.adjacency))
  | .serve host portNumber =>
    let host := (host.filter fun host => !host.isEmpty).getD settings.api.host
    let portNumber := (portNumber.filter fun n => n != 0).getD settings.api.portNumber
    let service : Service := {
      host, portNumber, debug := settings.api.debug, ns := t.ns, vertices := t.vertices.size
      edges := t.edges.size, provider := (t.provider 0).info.name }
    .ok (.ofLines [servingLine t.ns host portNumber] (some service))

def run (env : Environment) (files : String → Option GraphSource) (arguments : List String) :
    Ending :=
  match CommandLine.read arguments with
  | none => .misused
  | some .version => .ofLines [versionLine]
  | some (.command ns name rest) =>
    match Settings.load env [] with
    | .error fault => .failed fault
    | .ok settings =>
      match Action.read name rest with
      | none => .misused
      | some (.error fault) => .failed fault
      | some (.ok (path, action)) =>
        match files path with
        | none => .misused
        | some source =>
          match loadTopology settings ns path source >>= fun t => perform settings t action with
          | .ok ending => ending
          | .error fault => .failed fault

end NetworkTopology.Cli
