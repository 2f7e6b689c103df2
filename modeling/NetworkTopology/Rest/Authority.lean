import NetworkTopology.Fault
import NetworkTopology.Rest.Host
import NetworkTopology.Rest.HostName

/-!
# Authorities

An authority is a host, possibly with a user in front, whose password may be given, too, and with a
port behind.  To settle an authority is to spell its host in ASCII and its port without superfluous
zeros.  What is settled can still turn out to be no authority, since an ASCII spelling may bring
brackets about.  A host is plainly named if it consists of nothing but letters, digits, dots and
hyphens, or is an IPv6 address without scope.
-/

namespace NetworkTopology.Rest

open NetworkTopology.Text (cut)

/-- The parts of an authority.  One that is empty might as well be missing. -/
structure Authority where
  user : List Char := []
  password : List Char := []
  host : List Char := []
  port : List Char := []
  deriving DecidableEq, Repr, Inhabited

namespace Authority

/-- What stands in front of the last at sign, and what stands behind it. -/
def splitUser (cs : List Char) : List Char × List Char :=
  let (behind, before) := cut (· == '@') cs.reverse
  (before.reverse, behind.reverse)

/-- The host and the port of an authority without user. -/
def splitPort (cs : List Char) : List Char × List Char :=
  if cs.contains '[' then
    let (host, behind) := cut (· == ']') (cut (· == '[') cs).2
    (host, (cut (· == ':') behind).2)
  else cut (· == ':') cs

def ofText (cs : List Char) : Authority :=
  let (info, place) := splitUser cs
  let (user, password) := cut (· == ':') info
  let (host, port) := splitPort place
  { user, password, host, port }

/-- A bracket in front stands at the very start, and behind the one that closes it there is at most
a port. -/
def isEnclosed (place : List Char) : Bool :=
  let (before, inside) := cut (· == '[') place
  let behind := (cut (· == ']') inside).2
  before.isEmpty && (behind.isEmpty || behind.head? == some ':')

/-- Brackets come in pairs and call for an address. -/
def bracketsHold (cs : List Char) : Bool :=
  match cs.contains '[', cs.contains ']' with
  | false, false => true
  | true, true =>
    let place := (splitUser cs).2
    (!place.contains '[' || isEnclosed place) && Host.isLiteral (ofText cs).host
  | _, _ => false

/-- The characters that stand for a text with one of the separators `/`, `?`, `#`, `@` and `:` in
it. -/
def disguisedSeparators : List Char :=
  ['\u2047', '\u2048', '\u2049', '\u2100', '\u2101', '\u2105', '\u2106', '\u2A74', '\uFE13',
    '\uFE16', '\uFE55', '\uFE56', '\uFE5F', '\uFE6B', '\uFF03', '\uFF0F', '\uFF1A', '\uFF1F',
    '\uFF20']

/-- A text must be able to be an authority at all. -/
def check (cs : List Char) : Except Fault Unit :=
  if bracketsHold cs && cs.all (fun c => !disguisedSeparators.contains c) then .ok ()
  else .error .malformedAddress

/-- The small letter of an ASCII letter, and of the sign for kelvins, which is one. -/
def smallLetter (c : Char) : Char :=
  if c = '\u212A' then 'k' else c.toLower

/-- The host in small letters.  The scope of an address keeps its letters. -/
def hostName (a : Authority) : List Char :=
  (a.host.takeWhile (· != '%')).map smallLetter ++ a.host.dropWhile (· != '%')

/-- The number of the port; zero is as good as none. -/
def portNumber (a : Authority) : Except Fault Nat :=
  if a.port.all Char.isDigit && Decimal.ofNatural a.port ≤ 65535 then .ok (Decimal.ofNatural a.port)
  else .error .malformedAddress

/-- A host as it is written: an address stands in brackets. -/
def writeHost (host : List Char) : List Char :=
  if host.contains ':' then '[' :: host ++ [']'] else host

/-- The settled host and port. -/
def place (a : Authority) : Except Fault (List Char) :=
  match HostName.toAscii? a.hostName with
  | none => .error .malformedHostName
  | some host => do
    let port ← a.portNumber
    return writeHost host ++ (if port = 0 then [] else ':' :: (Decimal.text port).toList)

/-- The user as it is written in front of a place. -/
def userText (a : Authority) : List Char :=
  if a.user.isEmpty then []
  else a.user ++ (if a.password.isEmpty then [] else ':' :: a.password) ++ ['@']

/-- Settles an authority. -/
def settle (cs : List Char) : Except Fault (List Char) := do
  let a := ofText cs
  return a.userText ++ (← a.place)

def isPlainCharacter (c : Char) : Bool :=
  c.isAlphanum || c = '.' || c = '-'

/-- A character of an address that names no scope. -/
def isAddressCharacter (c : Char) : Bool :=
  (Text.hexValue? c).isSome || c = '.' || c = ':'

/-- Is the host of a settled place plainly named? -/
def isPlain (place : List Char) : Bool :=
  let host := (splitPort place).1
  if place.head? = some '[' then host.all isAddressCharacter
  else !host.isEmpty && host.all isPlainCharacter

/-- The host of a settled place must be the spelling of a name, and this name must be able to be an
authority, too. -/
def checkName (place : List Char) : Except Fault Unit :=
  match HostName.ofAscii? (ofText place).hostName with
  | none => .error .malformedHostName
  | some labels => check (writeHost (List.intercalate ['.'] labels))

end Authority

end NetworkTopology.Rest
