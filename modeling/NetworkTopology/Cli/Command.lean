import NetworkTopology.Cli.Arguments
import NetworkTopology.Fault
import NetworkTopology.Number.IntegerLiteral

/-!
# Commands of the command line

A command line names a command, after options that hold for all commands.  Every command works on
the topology of a file; its own arguments are read once the settings are known.
-/

namespace NetworkTopology.Cli

/-- The commands. -/
inductive CommandName where
  | info
  | edges
  | select
  | matrix
  | serve
  deriving DecidableEq, Repr

def CommandName.ofText? : String → Option CommandName
  | "info" => some info
  | "edges" => some edges
  | "select" => some select
  | "matrix" => some matrix
  | "serve" => some serve
  | _ => none

/-- A command line before the arguments of its command are read. -/
inductive CommandLine where
  /-- The version is asked for. -/
  | version
  /-- A command is to run, in a namespace if one is named. -/
  | command (ns : Option String) (name : CommandName) (arguments : List String)
  deriving DecidableEq, Repr

namespace CommandLine

/-- The options that hold for all commands. -/
def options : List OptionSpec :=
  [{ name := "namespace", letter := some 'n' }, { name := "version", takesValue := false }]

/-- What is left when the name of a command is expected and an option stands there, which happens
behind the end of options: nothing but the question for the version can be answered. -/
def lateOptions (arguments : List String) : Option CommandLine := do
  let late ← Arguments.read options false arguments
  if late.has "version" then some version else none

/-- Reads a command line; nothing is read from one that cannot be understood. -/
def read (arguments : List String) : Option CommandLine := do
  let a ← Arguments.read options false arguments
  if a.has "version" then return version
  match a.operands with
  | [] => none
  | name :: rest =>
    match CommandName.ofText? name with
    | some known => return command (a.value? "namespace") known rest
    | none => if name.startsWith "-" then lateOptions (name :: rest) else none

end CommandLine

/-- What a command is to do with the topology of a file. -/
inductive Action where
  | info
  | edges (ids : List String)
  | select (ids : List String) (contentType : String)
  | matrix
  | serve (host : Option String) (portNumber : Option Int)
  deriving DecidableEq, Repr

def CommandName.options : CommandName → List OptionSpec
  | info | edges | matrix => []
  | select => [{ name := "content-type", letter := some 't' }]
  | serve => [{ name := "host" }, { name := "port", letter := some 'p' }]

namespace Action

/-- A port number that is given must be an integer. -/
def portNumber? (a : Arguments) : Option (Option Int) :=
  match a.value? "port" with
  | none => some none
  | some text => (IntegerLiteral.read? text.toList).map some

/-- The action of a command on a file, named first among its operands. -/
def ofOperands (name : CommandName) (a : Arguments) (portNumber : Option Int) :
    Option (String × Action) :=
  match name, a.operands with
  | .info, [file] => some (file, info)
  | .edges, file :: id :: ids => some (file, edges (id :: ids))
  | .select, file :: ids => some (file, select ids ((a.value? "content-type").getD "node"))
  | .matrix, [file] => some (file, matrix)
  | .serve, [file] => some (file, serve (a.value? "host") portNumber)
  | _, _ => none

/-- Reads the file and the action from the arguments of a command; nothing is read from arguments
that the command does not understand.  The file is looked for before the other operands are counted,
and the search fails when no path can be what is named. -/
def read (name : CommandName) (arguments : List String) :
    Option (Except Fault (String × Action)) := do
  let a ← Arguments.read name.options true arguments
  let portNumber ← portNumber? a
  let file ← a.operands.head?
  if file.toList.contains '\x00' then return .error .impossiblePath
  return .ok (← ofOperands name a portNumber)

end Action

end NetworkTopology.Cli
