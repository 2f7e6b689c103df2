import NetworkTopology.Json.Reader

/-!
# Settings in the environment

Environment variables hold settings under names that start alike and whose case does not matter.  A
variable may hold a whole section, as a document, or one field of it, under a name in which double
underscores separate section and field.  The variables of single fields are laid over the document
of their section.
-/

namespace NetworkTopology

/-- Environment variables in order. -/
abbrev Environment := List (String × String)

namespace Environment

/-- A name with small letters.  No letter beyond the ASCII ones has a small form that occurs in the
name of a section or a field, so the others may stay as they are. -/
def lowerCase (name : String) : String :=
  String.ofList (name.toList.map Char.toLower)

/-- Sets a variable, in its place when it is there. -/
def set (name value : String) : Environment → Environment
  | [] => [(name, value)]
  | (n, v) :: rest => if n = name then (n, value) :: rest else (n, v) :: set name value rest

/-- The variables under names with small letters; of two names that differ in case only the later
one counts. -/
def normalize (env : Environment) : Environment :=
  env.foldl (fun result entry => set (lowerCase entry.1) entry.2 result) []

/-- How the names of all settings start. -/
def start : String := "topograph_"

/-- The parts of a name between double underscores. -/
def parts : List Char → List (List Char)
  | '_' :: '_' :: rest => [] :: parts rest
  | c :: rest =>
    match parts rest with
    | part :: more => (c :: part) :: more
    | [] => [[c]]
  | [] => [[]]

/-- Sets a field inside nested objects, which are made where they are missing.  A field that is no
object keeps its value, and what should go into it is lost. -/
def assign (value : Json) : List String → Fields → Fields
  | [], fields => fields
  | [last], fields => fields.set last value
  | name :: names, fields =>
    match Fields.get? fields name with
    | some (.obj inner) => fields.set name (.obj (assign value names inner))
    | some _ => fields
    | none => fields.set name (.obj (assign value names []))

/-- The path of a variable inside a section, if it is one of the section's. -/
def pathIn (sectionName name : String) : Option (List String) :=
  let head := (start ++ sectionName ++ "__").toList
  if head.isPrefixOf name.toList then
    some ((parts (name.toList.drop head.length)).map String.ofList)
  else none

/-- The fields of a section that have variables of their own. -/
def nested (sectionName : String) (env : Environment) : Fields :=
  env.foldl
    (fun fields entry =>
      match pathIn sectionName entry.1 with
      | some path => assign (.str entry.2) path fields
      | none => fields)
    []

end Environment

namespace Json

mutual

/-- Lays a document over another: objects field by field, and anything else in place of what is
below. -/
def overlay (below above : Json) : Json :=
  match below, above with
  | obj fields, obj more => obj (overlayFields fields more)
  | _, above => above

/-- Lays fields over others. -/
def overlayFields (fields : Fields) : List (String × Json) → Fields
  | [] => fields
  | (name, value) :: more =>
    let value :=
      match Fields.get? fields name with
      | some old => overlay old value
      | none => value
    overlayFields (fields.set name value) more

end

end Json

namespace Environment

/-- Gives fields the names that are known for them, whatever the case; of two fields of one name the
later counts. -/
def rename (known : List String) (fields : Fields) : Fields :=
  fields.foldl
    (fun result field =>
      let name := (known.find? fun name => name == lowerCase field.1).getD field.1
      result.set name field.2)
    []

/-- The value of a section, if the environment has one.  A section that is null counts as absent,
whatever its fields' variables say. -/
def readSection (known : List String) (name : String) (env : Environment) :
    Except Fault (Option Json) :=
  let fields := nested name env
  match env.lookup (start ++ name) with
  | none => .ok (if fields.isEmpty then none else some (.obj (rename known fields)))
  | some text =>
    match Json.read text with
    | .error _ => .error (.unreadableSection name)
    | .ok .null => .ok none
    | .ok (.obj document) => .ok (some (.obj (rename known (Json.overlayFields document fields))))
    | .ok value => .ok (some value)

end Environment

end NetworkTopology
