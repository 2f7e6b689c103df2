import NetworkTopology.Settings.Basic
import NetworkTopology.Text.Digit
import NetworkTopology.Text.Word

/-!
# Log formats

A log format is a text with at least one place for a field: a percent sign, the field's name in
round brackets, flags, a width, a precision and the letter of a conversion.  Setting up logging
gives the root logger a handler with the format, unless it has handlers already.
-/

namespace NetworkTopology

namespace LogFormat

/-- The letters of conversions, in small form. -/
def conversions : List Char := "diouxefgcrsa%".toList

/-- The letters beyond ASCII that are taken for one of these when case does not matter: the dotted
capital and the dotless small i, and the long s. -/
def equivalents : List Char := ['\u0130', '\u0131', '\u017F']

/-- A letter of a conversion, in any case. -/
def isConversion (c : Char) : Bool :=
  conversions.contains c.toLower || equivalents.contains c

def isFlag (c : Char) : Bool :=
  "#0+ -".toList.contains c

/-- A decimal digit of any script. -/
def isDigit (c : Char) : Bool :=
  (Text.digitValue? c).isSome

/-- Goes past a width: an asterisk, or digits. -/
def skipWidth : List Char → List Char
  | '*' :: cs => cs
  | cs => cs.dropWhile isDigit

/-- Does a text start with the letter of a conversion? -/
def startsWithConversion : List Char → Bool
  | c :: _ => isConversion c
  | [] => false

/-- Does a text start with what follows the name of a field: flags, a width, a precision and the
letter of a conversion? -/
def startsWithStyle (cs : List Char) : Bool :=
  match skipWidth (cs.dropWhile isFlag) with
  | '.' :: '*' :: rest => startsWithConversion rest
  | '.' :: d :: rest => isDigit d && startsWithConversion (rest.dropWhile isDigit)
  | rest => startsWithConversion rest

/-- Does a text start with a place for a field? -/
def startsWithPlace : List Char → Bool
  | '%' :: '(' :: cs =>
    match cs.takeWhile Text.isWord, cs.dropWhile Text.isWord with
    | _ :: _, ')' :: rest => startsWithStyle rest
    | _, _ => false
  | _ => false

/-- Is there a place for a field anywhere in a text? -/
def hasPlace : List Char → Bool
  | [] => false
  | c :: cs => startsWithPlace (c :: cs) || hasPlace cs

/-- The format that an empty one stands for. -/
def bare : String := "%(message)s"

/-- A format that can be used. -/
def make (text : String) : Except Fault String :=
  let format := if text.isEmpty then bare else text
  if hasPlace format.toList then .ok format else .error .invalidFormat

end LogFormat

/-- A root logger: its level, and for each handler the format it was given, if any. -/
structure RootLogger where
  level : LogLevel := .warning
  formats : List (Option String) := []
  deriving DecidableEq, Repr

/-- Sets logging up, where no handler is in place yet. -/
def RootLogger.configure (logger : RootLogger) (settings : LoggingSettings) :
    Except Fault RootLogger :=
  match logger.formats with
  | [] => do
    let format ← LogFormat.make settings.format
    return { level := settings.level, formats := [some format] }
  | _ :: _ => .ok logger

end NetworkTopology
