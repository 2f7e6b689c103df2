import NetworkTopology.Cli.Run

/-!
# The program

Runs a command line with the environment and the files of the machine.  Whatever is decided is
decided by `Cli.run`; this module reads what it needs and prints what it says.
-/

namespace NetworkTopology

/-- The names under which the environment is searched for settings. -/
def variableNames : List String :=
  Settings.sections.flatMap fun known =>
    let whole := Environment.start ++ known.1
    (whole :: known.2.map fun field => whole ++ "__" ++ field).map fun name =>
      String.ofList (name.toList.map Char.toUpper)

/-- The environment variables that are set. -/
def readEnvironment : IO Environment := do
  let found ← variableNames.mapM fun name => do
    return (← IO.getEnv name).map fun value => (name, Text.ofCharacters value)
  return found.filterMap id

/-- What a path leads to: a file with a text, or a directory. -/
def readSource? (path : String) : IO (Option GraphSource) := do
  try
    return some (.text (← IO.FS.readFile path))
  catch _ =>
    try
      return if ← (← IO.FS.realPath path).isDir then some .directory else none
    catch _ => return none

/-- What those of the arguments lead to that are paths. -/
def readSources (arguments : List String) : IO (List (String × GraphSource)) := do
  let found ← arguments.mapM fun path => do
    return (← readSource? path).map fun source => (Text.ofCharacters path, source)
  return found.filterMap id

/-- Prints what an ending has to say. -/
def report : Cli.Ending → IO Unit
  | .misused => IO.eprintln "The command line is not understood."
  | .failed fault => IO.eprintln (fault.message?.getD "The command failed.")
  | .finished _ output errors _ => do
    IO.print output
    IO.eprint errors

end NetworkTopology

open NetworkTopology in
/-- Runs the command line. -/
def main (arguments : List String) : IO UInt32 := do
  let env ← readEnvironment
  let sources ← readSources arguments
  let ending := Cli.run env (fun path => sources.lookup path) (arguments.map Text.ofCharacters)
  report ending
  return ending.exitCode.toUInt32
