import NetworkTopology.Json.Basic
import NetworkTopology.Text.Hexadecimal
import NetworkTopology.Text.Spelling

/-!
# Reading documents

A reader of JSON text, which is given in its spelling.  Beyond the standard it accepts the numbers
`NaN`, `Infinity` and `-Infinity`; of a name that is set twice in one object the last value counts;
an integer may have as many digits as an integer literal.  The reader fails at the first thing that
is wrong.
-/

namespace NetworkTopology.Json

open NetworkTopology.Text (hexValue?)

/-- Drops the spaces, tabs and line ends in front. -/
def skipSpace (cs : List Char) : List Char :=
  cs.dropWhile fun c => c == ' ' || c == '\t' || c == '\n' || c == '\r'

/-- The number that four hexadecimal digits write. -/
def hexUnit? (a b c d : Char) : Option Nat := do
  let a ← hexValue? a
  let b ← hexValue? b
  let c ← hexValue? c
  let d ← hexValue? d
  return ((a * 16 + b) * 16 + c) * 16 + d

/-- The character that an escape of one letter stands for. -/
def escaped? : Char → Option Char
  | '"' => some '"'
  | '\\' => some '\\'
  | '/' => some '/'
  | 'b' => some '\x08'
  | 'f' => some '\x0c'
  | 'n' => some '\n'
  | 'r' => some '\r'
  | 't' => some '\t'
  | _ => none

/-- A piece of a string: a character as it stands, or the code unit that an escape writes. -/
inductive Piece where
  | plain (c : Char)
  | unit (value : Nat)

/-- Reads a string after its opening mark: its pieces, and the text after the closing mark. -/
def pieces : List Char → Except Fault (List Piece × List Char)
  | [] => .error .malformedText
  | '"' :: rest => .ok ([], rest)
  | '\\' :: 'u' :: a :: b :: c :: d :: rest => do
    match hexUnit? a b c d with
    | none => .error .malformedText
    | some value =>
      let (more, rest) ← pieces rest
      return (.unit value :: more, rest)
  | '\\' :: c :: rest => do
    match escaped? c with
    | none => .error .malformedText
    | some c =>
      let (more, rest) ← pieces rest
      return (.plain c :: more, rest)
  | c :: rest => do
    if c.toNat < 0x20 ∨ c = '\\' then .error .malformedText
    else
      let (more, rest) ← pieces rest
      return (.plain c :: more, rest)

/-- The spelling of a string.  The units of a surrogate pair write one character; a surrogate that
has no partner stays one. -/
def spell : List Piece → List Char
  | .unit high :: .unit low :: rest =>
    match Text.pair? high low with
    | some n => Text.spelling n ++ spell rest
    | none => Text.spelling high ++ spell (.unit low :: rest)
  | .unit value :: rest => Text.spelling value ++ spell rest
  | .plain c :: rest => c :: spell rest
  | [] => []

/-- Reads a string after its opening mark. -/
def readString (cs : List Char) : Except Fault (String × List Char) := do
  let (ps, rest) ← pieces cs
  return (String.ofList (spell ps), rest)

/-- The decimal digits in front, by value, and the rest. -/
def splitDigits (cs : List Char) : List Nat × List Char :=
  ((cs.takeWhile Char.isDigit).map fun c => c.toNat - '0'.toNat, cs.dropWhile Char.isDigit)

/-- The fraction digits of a number, where a point and a digit follow. -/
def splitFraction : List Char → List Nat × List Char
  | '.' :: rest =>
    match splitDigits rest with
    | ([], _) => ([], '.' :: rest)
    | split => split
  | cs => ([], cs)

/-- The exponent of a number, where one follows. -/
def splitExponent (cs : List Char) : Option Int × List Char :=
  match cs with
  | e :: rest =>
    if e = 'e' ∨ e = 'E' then
      let (negative, digits) := match rest with
        | '-' :: digits => (true, digits)
        | '+' :: digits => (false, digits)
        | digits => (false, digits)
      match splitDigits digits with
      | ([], _) => (none, cs)
      | (ds, rest) =>
        (some (if negative then -(Decimal.ofDigits ds : Int) else Decimal.ofDigits ds), rest)
    else (none, cs)
  | [] => (none, [])

/-- Reads the digits of a number after its sign.  Fraction or exponent make it a double. -/
def readUnsigned (negative : Bool) (cs : List Char) : Except Fault (Json × List Char) :=
  let (whole, rest) := match cs with
    | '0' :: rest => ([0], rest)
    | cs => splitDigits cs
  if whole.isEmpty then .error .malformedText
  else
    let (fraction, rest) := splitFraction rest
    let (exponent, rest) := splitExponent rest
    if fraction.isEmpty && exponent.isNone then
      if whole.length ≤ IntegerLiteral.digitLimit then
        let n : Int := Decimal.ofDigits whole
        .ok (.int (if negative then -n else n), rest)
      else .error .integerTooLong
    else
      let n := Decimal.ofDigits (whole ++ fraction)
      .ok (.float (Binary64.ofDecimal negative n (exponent.getD 0 - fraction.length)), rest)

/-- Reads a value that starts with neither a mark nor a bracket. -/
def readPlain : List Char → Except Fault (Json × List Char)
  | 'n' :: 'u' :: 'l' :: 'l' :: rest => .ok (.null, rest)
  | 't' :: 'r' :: 'u' :: 'e' :: rest => .ok (.bool true, rest)
  | 'f' :: 'a' :: 'l' :: 's' :: 'e' :: rest => .ok (.bool false, rest)
  | 'N' :: 'a' :: 'N' :: rest => .ok (.float .nan, rest)
  | 'I' :: 'n' :: 'f' :: 'i' :: 'n' :: 'i' :: 't' :: 'y' :: rest =>
    .ok (.float (.infinite false), rest)
  | '-' :: 'I' :: 'n' :: 'f' :: 'i' :: 'n' :: 'i' :: 't' :: 'y' :: rest =>
    .ok (.float (.infinite true), rest)
  | '-' :: rest => readUnsigned true rest
  | cs => readUnsigned false cs

mutual

/-- Reads one value.  Each recursive call starts further on in the text, so the length of the text
is fuel enough. -/
def readValue : Nat → List Char → Except Fault (Json × List Char)
  | 0, _ => .error .malformedText
  | fuel + 1, cs =>
    match cs with
    | '"' :: rest => do
      let (s, rest) ← readString rest
      return (.str s, rest)
    | '[' :: rest =>
      match skipSpace rest with
      | ']' :: rest => .ok (.arr [], rest)
      | rest => readItems fuel rest []
    | '{' :: rest =>
      match skipSpace rest with
      | '}' :: rest => .ok (.obj [], rest)
      | rest => readFields fuel rest []
    | cs => readPlain cs

/-- Reads the items of a list up to its end; `items` are those before, last first. -/
def readItems : Nat → List Char → List Json → Except Fault (Json × List Char)
  | 0, _, _ => .error .malformedText
  | fuel + 1, cs, items => do
    let (item, rest) ← readValue fuel cs
    match skipSpace rest with
    | ']' :: rest => return (.arr (item :: items).reverse, rest)
    | ',' :: rest => readItems fuel (skipSpace rest) (item :: items)
    | _ => .error .malformedText

/-- Reads the fields of an object up to its end, into those before. -/
def readFields : Nat → List Char → Fields → Except Fault (Json × List Char)
  | 0, _, _ => .error .malformedText
  | fuel + 1, cs, fields =>
    match cs with
    | '"' :: rest => do
      let (name, rest) ← readString rest
      match skipSpace rest with
      | ':' :: rest =>
        let (value, rest) ← readValue fuel (skipSpace rest)
        let fields := Fields.set fields name value
        match skipSpace rest with
        | '}' :: rest => return (.obj fields, rest)
        | ',' :: rest => readFields fuel (skipSpace rest) fields
        | _ => .error .malformedText
      | _ => .error .malformedText
    | _ => .error .malformedText

end

/-- Reads a text that holds one document and nothing else. -/
def read (text : String) : Except Fault Json := do
  let cs := text.toList
  let (value, rest) ← readValue (cs.length + 1) (skipSpace cs)
  if (skipSpace rest).isEmpty then return value else .error .malformedText

/-- Reads a document from the characters of a file. -/
def readCharacters (characters : String) : Except Fault Json :=
  read (Text.ofCharacters characters)

end NetworkTopology.Json
