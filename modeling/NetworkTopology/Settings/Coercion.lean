import NetworkTopology.Settings.Basic
import NetworkTopology.Text.Blank

/-!
# Coercion of settings

A setting comes from a document or, as a text, from the environment, and is coerced to its type:
integral numbers and texts of integers become integers, and the usual words for yes and no become
booleans.  What cannot be coerced is refused, each kind of value for its own reason.
-/

namespace NetworkTopology

namespace Coercion

/-- A string; nothing else becomes one. -/
def string : Json → Except Refusal String
  | .str text => .ok text
  | _ => .error .stringType

def nonEmpty (value : Json) : Except Refusal { text : String // text ≠ "" } := do
  let text ← string value
  if h : text ≠ "" then return ⟨text, h⟩ else throw .stringTooShort

def logLevel : Json → Except Refusal LogLevel
  | .str text =>
    match LogLevel.ofName? text with
    | some level => .ok level
    | none => .error .literalError
  | _ => .error .literalError

/-- Reads digits up to the end of a text, without superfluous zeros in front. -/
def plainNatural (cs : List Char) : Except Refusal Nat :=
  let digits := cs.takeWhile Char.isDigit
  match digits, cs.dropWhile Char.isDigit with
  | [], _ => .error .intParsing
  | '0' :: _ :: _, _ => .error .intParsing
  | ds, rest =>
    if IntegerLiteral.digitLimit < ds.length then .error .intParsingSize
    else if rest.isEmpty then .ok (Decimal.ofNatural ds)
    else .error .intParsing

/-- Reads an integer that is written plainly. -/
def plainInteger : List Char → Except Refusal Int
  | '-' :: cs => (plainNatural cs).map fun n => -(n : Int)
  | cs => (plainNatural cs).map Int.ofNat

/-- Goes past zeros and underscores behind a zero, up to a digit, a sign, or the zero in front of a
point or of the end. -/
def dropZerosAfter (last : Char) : List Char → Option (List Char)
  | [] => some [last]
  | c :: cs =>
    if c = '0' ∨ c = '_' then dropZerosAfter c cs
    else if c.isDigit ∨ c = '-' then some (c :: cs)
    else if c = '.' then some (last :: c :: cs)
    else none

/-- Removes the zeros in front of a number. -/
def dropZeros : List Char → Option (List Char)
  | [] => none
  | c :: cs =>
    if c = '0' then dropZerosAfter c cs
    else if c.isDigit ∨ c = '-' then some (c :: cs)
    else none

/-- Removes a point with one or more zeros and nothing else behind it. -/
def dropZeroFraction (cs : List Char) : List Char :=
  match cs.dropWhile fun c => c != '.' with
  | _ :: digit :: fraction =>
    if (digit :: fraction).all fun c => c == '0' then cs.takeWhile fun c => c != '.' else cs
  | _ => cs

/-- Does a text hold two underscores side by side? -/
def hasDoubleUnderscore : List Char → Bool
  | '_' :: '_' :: _ => true
  | _ :: cs => hasDoubleUnderscore cs
  | [] => false

/-- Removes single underscores inside a number. -/
def dropUnderscores (cs : List Char) : List Char :=
  if cs.head? = some '_' ∨ cs.getLast? = some '_' ∨ hasDoubleUnderscore cs then cs
  else cs.filter fun c => c != '_'

/-- The plain form of a number without a sign in front. -/
def unsignedForm (cs : List Char) : Option (List Char) :=
  (dropZeros cs).map fun significant => dropUnderscores (dropZeroFraction significant)

/-- The plain form of a number that is written with white space around it, with a plus sign, with
zeros in front, with a fraction of zeros or with single underscores. -/
def plainForm (cs : List Char) : Option (List Char) :=
  match Text.trimBy Text.whiteSpace.holds cs with
  | '+' :: '-' :: _ => none
  | '+' :: rest => unsignedForm rest
  | '-' :: rest => (unsignedForm rest).map ('-' :: ·)
  | trimmed => unsignedForm trimmed

/-- Reads an integer from a text.  Only a text that is plain already is refused for its length. -/
def textInteger (cs : List Char) : Except Refusal Int :=
  match plainInteger cs with
  | .error .intParsing =>
    match (plainForm cs).map plainInteger with
    | some (.ok n) => .ok n
    | _ => .error .intParsing
  | result => result

/-- The least integer above those of a machine word. -/
def wordBound : Int := 9223372036854775808

/-- The integers of a machine word, the least one left out. -/
def inWord (n : Int) : Bool :=
  -wordBound < n && n < wordBound

/-- A number as an integer; it must be finite, integral and not too large. -/
def floatInteger (value : Binary64) : Except Refusal Int :=
  match value with
  | .nan | .infinite _ => .error .finiteNumber
  | .finite .. =>
    match value.toInt? with
    | some n => if inWord n then .ok n else .error .intParsingSize
    | none => .error .intFromFloat

def integer : Json → Except Refusal Int
  | .bool value => .ok (if value then 1 else 0)
  | .int value => .ok value
  | .float value => floatInteger value
  | .str text => textInteger text.toList
  | .null | .arr _ | .obj _ => .error .intType

def portNumber (value : Json) : Except Refusal { n : Int // 1 ≤ n ∧ n ≤ 65535 } := do
  let n ← integer value
  if low : 1 ≤ n then
    if high : n ≤ 65535 then return ⟨n, low, high⟩ else throw .lessThanEqual
  else throw .greaterThanEqual

/-- The words for no. -/
def negativeWords : List String := ["0", "f", "n", "no", "off", "false"]

/-- The words for yes. -/
def positiveWords : List String := ["1", "t", "y", "on", "yes", "true"]

/-- A word for yes or no. -/
def wordBoolean (text : String) : Except Refusal Bool :=
  let word := String.ofList (text.toList.map Char.toLower)
  if negativeWords.contains word then .ok false
  else if positiveWords.contains word then .ok true
  else .error .boolParsing

/-- A number for yes or no. -/
def integerBoolean (n : Int) : Except Refusal Bool :=
  if n = 0 then .ok false
  else if n = 1 then .ok true
  else .error .boolParsing

def boolean : Json → Except Refusal Bool
  | .bool value => .ok value
  | .int n => if n = -wordBound ∨ inWord n then integerBoolean n else .error .boolType
  | .float value =>
    match floatInteger value with
    | .ok n => integerBoolean n
    | .error _ => .error .boolType
  | .str text => wordBoolean text
  | .null | .arr _ | .obj _ => .error .boolType

end Coercion

end NetworkTopology
