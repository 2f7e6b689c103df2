import NetworkTopology.Text.Quoted
import NetworkTopology.Number.Decimal

/-!
# Faults

Everything that can go wrong, as causes.  An operation that fails returns one of these; the wording
of those that carry a text of their own is `Fault.message?`.
-/

namespace NetworkTopology

/-- Why one setting is refused. -/
inductive Refusal where
  | stringType
  | stringTooShort
  | literalError
  | intType
  | intParsing
  | intParsingSize
  | intFromFloat
  | finiteNumber
  | greaterThanEqual
  | lessThanEqual
  | boolType
  | boolParsing
  | modelType
  deriving DecidableEq, Repr

/-- The code under which a refusal is reported. -/
def Refusal.code : Refusal → String
  | stringType => "string_type"
  | stringTooShort => "string_too_short"
  | literalError => "literal_error"
  | intType => "int_type"
  | intParsing => "int_parsing"
  | intParsingSize => "int_parsing_size"
  | intFromFloat => "int_from_float"
  | finiteNumber => "finite_number"
  | greaterThanEqual => "greater_than_equal"
  | lessThanEqual => "less_than_equal"
  | boolType => "bool_type"
  | boolParsing => "bool_parsing"
  | modelType => "model_type"

/-- A refused setting: where it stands and why it is refused. -/
structure Problem where
  location : List String
  refusal : Refusal
  deriving DecidableEq, Repr

/-- The two kinds of store. -/
inductive StoreKind where
  | vertices
  | edges
  deriving DecidableEq, Repr

/-- The cause of a failure. -/
inductive Fault where
  /-- A store was asked for without a namespace. -/
  | storeWithoutNamespace (kind : StoreKind)
  /-- The two stores of a provider serve different namespaces. -/
  | namespacesDiffer (vertices edges : String)
  /-- The stores serve one namespace and the provider was asked for another. -/
  | namespaceRefused (served asked : String)
  /-- An id generator was asked for without a prefix. -/
  | missingPrefix
  /-- A connector has no vertex. -/
  | detachedConnector (id : String)
  /-- An edge lacks one of its connectors. -/
  | unattachedEdge (id : String)
  /-- An integer has more digits than a literal may have. -/
  | integerTooLong
  /-- A text is not an integer literal. -/
  | notAnInteger
  /-- A number that is none has no integer part. -/
  | undefinedNumber
  /-- An infinite number has no integer part. -/
  | infiniteNumber
  /-- A value of this shape is never read as an integer. -/
  | notNumeric
  /-- Two values have no common order. -/
  | incomparable
  /-- A value that should be a text is none. -/
  | notText
  /-- A value cannot be told apart from others by equality alone, so it names nothing. -/
  | notAName
  /-- A text does not follow the document grammar. -/
  | malformedText
  /-- A value that should hold fields holds none. -/
  | notAnObject
  /-- A field of an entry is asked for, and the entry is no object. -/
  | entryNotAnObject
  /-- A value that should hold a sequence holds none. -/
  | notASequence
  /-- A field that must be there is missing. -/
  | missingField (name : String)
  /-- A field has a name that is kept for the graph itself. -/
  | reservedField (name : String)
  /-- A graph node has no name. -/
  | nullNode
  /-- An entity has no such attribute. -/
  | missingAttribute (name : String)
  /-- The object does not offer the operation. -/
  | notOffered
  /-- The object has no members. -/
  | notACollection
  /-- A provider that does not say how it refreshes cannot be made. -/
  | incompleteProvider
  /-- A listener of this name is not known. -/
  | unknownListener (name : String)
  /-- No graph has this number. -/
  | unknownGraph
  /-- A scripted failure. -/
  | scripted (text : String)
  /-- A section of the settings is not a document. -/
  | unreadableSection (name : String)
  /-- Some settings are refused. -/
  | invalidSettings (problems : List Problem)
  /-- A log format has no place for a field. -/
  | invalidFormat
  /-- The brackets, the separators or the port of an address are malformed. -/
  | malformedAddress
  /-- The name of a host cannot be spelled, or a spelling stands for no name. -/
  | malformedHostName
  /-- What is sent in one line holds a line end. -/
  | brokenLine
  /-- A path holds a character that no path can hold. -/
  | impossiblePath
  /-- A path leads to something that holds no text. -/
  | notAFile
  deriving DecidableEq, Repr

/-- The wording of the faults that have one. -/
def Fault.message? : Fault → Option String
  | storeWithoutNamespace .vertices => some "Vertex store needs a namespace"
  | storeWithoutNamespace .edges => some "Edge store needs a namespace"
  | namespacesDiffer vertices edges =>
    some ("Namespace of edge and vertex store must match: " ++ Text.quoted vertices ++ " != "
      ++ Text.quoted edges)
  | namespaceRefused served asked =>
    some ("Stores serve namespace " ++ Text.quoted served ++ ", provider was asked for "
      ++ Text.quoted asked)
  | missingPrefix => some "Id prefix must not be None"
  | detachedConnector id => some ("Connector " ++ id ++ " must reference a vertex")
  | unattachedEdge id => some ("Edge " ++ id ++ " needs a source and a target connector")
  | scripted text => some text
  | invalidSettings problems =>
    some ("Invalid topograph configuration: " ++ Decimal.text problems.length
      ++ (if problems.length = 1 then " validation error" else " validation errors")
      ++ " for Settings")
  | _ => none

end NetworkTopology
