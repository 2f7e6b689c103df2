/-!
# Command-line arguments

Arguments are options and operands.  A long option is written with two hyphens and its name, and its
value follows it, or an equals sign; a short one is written with one hyphen and its letter, and its
value follows directly or as the next argument, while letters without values may stand together.
Two hyphens alone end the options, and one hyphen alone is an operand.
-/

namespace NetworkTopology.Cli

/-- An option that is understood. -/
structure OptionSpec where
  name : String
  letter : Option Char := none
  takesValue : Bool := true
  deriving DecidableEq, Repr

/-- An option that was given, with its value if it takes one. -/
structure Given where
  name : String
  value : Option String := none
  deriving DecidableEq, Repr

/-- What an argument is. -/
inductive Reading where
  /-- An operand. -/
  | operand
  /-- The end of the options. -/
  | separator
  /-- Options, complete. -/
  | given (options : List Given)
  /-- Options, the last of which takes the next argument as its value. -/
  | awaiting (options : List Given) (name : String)
  /-- An option that is not understood. -/
  | unknown
  deriving DecidableEq, Repr

namespace Reading

def addFlag (name : String) : Reading → Reading
  | given options => given ({ name } :: options)
  | awaiting options last => awaiting ({ name } :: options) last
  | other => other

def ofLetters (specs : List OptionSpec) : List Char → Reading
  | [] => given []
  | c :: cs =>
    match specs.find? fun spec => spec.letter == some c with
    | none => unknown
    | some spec =>
      if spec.takesValue then
        match cs with
        | [] => awaiting [] spec.name
        | _ :: _ => given [{ name := spec.name, value := some (String.ofList cs) }]
      else (ofLetters specs cs).addFlag spec.name

/-- Reads a long option, without the hyphens in front. -/
def ofLong (specs : List OptionSpec) (cs : List Char) : Reading :=
  let name := String.ofList (cs.takeWhile fun c => c != '=')
  match specs.find? fun spec => spec.name == name, cs.dropWhile fun c => c != '=' with
  | none, _ => unknown
  | some spec, [] => if spec.takesValue then awaiting [] name else given [{ name }]
  | some spec, _ :: value =>
    if spec.takesValue then given [{ name, value := some (String.ofList value) }] else unknown

def ofArgument (specs : List OptionSpec) (argument : String) : Reading :=
  match argument.toList with
  | ['-', '-'] => separator
  | '-' :: '-' :: cs => ofLong specs cs
  | '-' :: c :: cs => ofLetters specs (c :: cs)
  | _ => operand

end Reading

/-- The options and operands of a command line. -/
structure Arguments where
  options : List Given := []
  operands : List String := []
  deriving DecidableEq, Repr

namespace Arguments

/-- Reads arguments.  Where options and operands may not be mixed, the first operand ends the
options.  Nothing is read when an option is not understood or lacks its value. -/
def read (specs : List OptionSpec) (mixed : Bool) : List String → Option Arguments
  | [] => some {}
  | argument :: rest =>
    match Reading.ofArgument specs argument with
    | .operand =>
      if mixed then
        (read specs mixed rest).map fun a => { a with operands := argument :: a.operands }
      else some { operands := argument :: rest }
    | .separator => some { operands := rest }
    | .given options =>
      (read specs mixed rest).map fun a => { a with options := options ++ a.options }
    | .awaiting options name =>
      match rest with
      | [] => none
      | value :: rest =>
        (read specs mixed rest).map fun a =>
          { a with options := options ++ { name, value := some value } :: a.options }
    | .unknown => none

/-- The value of an option; what is given last counts. -/
def value? (a : Arguments) (name : String) : Option String :=
  ((a.options.filter fun given => given.name == name).getLast?).bind Given.value

def has (a : Arguments) (name : String) : Bool :=
  a.options.any fun given => given.name == name

end Arguments

end NetworkTopology.Cli
