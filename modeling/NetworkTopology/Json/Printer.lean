import NetworkTopology.Json.Basic
import NetworkTopology.Number.Shortest
import NetworkTopology.Text.Hexadecimal
import NetworkTopology.Text.Spelling

/-!
# Writing documents

The text of a document, without spaces.  Doubles are written in their shortest notation, so that
reading the text gives the same document back.
-/

namespace NetworkTopology.Json

/-- One character of a string: the mark, the backslash and controls are written as escapes. -/
def stringChar (c : Char) : List Char :=
  if c = '"' then ['\\', '"']
  else if c = '\\' then ['\\', '\\']
  else if c.toNat < 0x20 then '\\' :: 'u' :: Text.hexDigits 4 c.toNat
  else [c]

/-- A code point of a string.  One that is no character is written as an escape. -/
def stringPoint (n : Nat) : List Char :=
  match Text.character? n with
  | some c => stringChar c
  | none => if n = Text.beyond then [Text.mark] else '\\' :: 'u' :: Text.hexDigits 4 n

/-- A string between its marks. -/
def renderString (s : String) : String :=
  String.ofList ('"' :: (Text.points s.toList).flatMap stringPoint ++ ['"'])

/-- The notation of a double in a document. -/
def renderFloat : Binary64 → String
  | .nan => "NaN"
  | .infinite negative => if negative then "-Infinity" else "Infinity"
  | x => x.text

mutual

def render : Json → String
  | null => "null"
  | bool value => if value then "true" else "false"
  | int value => Decimal.text value
  | float value => renderFloat value
  | str value => renderString value
  | arr items => "[" ++ String.intercalate "," (renderItems items) ++ "]"
  | obj fields => "\x7b" ++ String.intercalate "," (renderFields fields) ++ "\x7d"

def renderItems : List Json → List String
  | [] => []
  | item :: items => render item :: renderItems items

def renderFields : List (String × Json) → List String
  | [] => []
  | (name, value) :: fields => (renderString name ++ ":" ++ render value) :: renderFields fields

end

end NetworkTopology.Json
