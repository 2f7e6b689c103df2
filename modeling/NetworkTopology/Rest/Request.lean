import NetworkTopology.Json.Reader
import NetworkTopology.Rest.Address
import NetworkTopology.Text.Blank
import NetworkTopology.Text.Encoding

/-!
# Requests

A request names a method and an address and may carry a document.  What is sent under another media
type than JSON, or is not a document, counts as not sent, and so does a document that is not truthy.
-/

namespace NetworkTopology.Rest

/-- What a request carries, as the characters that are sent. -/
structure Payload where
  mediaType : String
  text : String
  deriving DecidableEq, Repr

/-- A request, as the characters that are sent.  The path of its address is percent-encoded. -/
structure Request where
  method : String
  address : String
  payload : Option Payload := none
  deriving DecidableEq, Repr

/-- A text with small ASCII letters. -/
def lowerCase (cs : List Char) : List Char :=
  cs.map Char.toLower

/-- The capital letters of a character, as far as they occur in the name of a method. -/
def capitals : Char → List Char
  | '\u0131' => ['I']
  | '\u017F' => ['S']
  | '\uFB05' | '\uFB06' => ['S', 'T']
  | c => [c.toUpper]

/-- The name of the method, which may be written in small letters. -/
def Request.methodName (r : Request) : String :=
  String.ofList (r.method.toList.flatMap capitals)

/-- A space or a tab. -/
def isPadding (c : Char) : Bool :=
  c = ' ' || c = '\t'

/-- The media type alone, without its parameters and without padding. -/
def Payload.essence (p : Payload) : List Char :=
  lowerCase (Text.trimBy isPadding (p.mediaType.toList.takeWhile fun c => c != ';'))

/-- Is it sent as JSON: `application/json`, or an application type with the suffix `+json`? -/
def Payload.isJson (p : Payload) : Bool :=
  p.essence == "application/json".toList
    || "application/".toList.isPrefixOf p.essence && "+json".toList.isSuffixOf p.essence

/-- A media type is sent in one line. -/
def Payload.isOneLine (p : Payload) : Bool :=
  p.mediaType.toList.all fun c => c != '\n' && c != '\r'

/-- The document that a payload holds, in any Unicode encoding.  A byte order mark in front of UTF-8
is passed over. -/
def Payload.document? (p : Payload) : Option Json :=
  if p.isJson then do
    let ns ← Text.Encoding.reread p.text.toList
    let text := match p.text.toList with
      | '\uFEFF' :: _ => ns.drop 1
      | _ => ns
    (Json.read (String.ofList (Text.spelled text))).toOption
  else none

/-- The document of a request: an empty object if none was sent. -/
def Request.document (r : Request) : Json :=
  match r.payload.bind Payload.document? with
  | some document => if document.isTruthy then document else .obj []
  | none => .obj []

/-- Where a request is sent. -/
structure Recipient where
  /-- The host and the port.  A host that is not plainly named, or has a user in front, counts as
  none. -/
  place : List Char
  /-- The path, decoded and without the slashes in front. -/
  path : List Char
  /-- Is it a web socket that is asked for? -/
  overWebSocket : Bool := false
  deriving DecidableEq, Repr

/-- The host that is meant where none is named. -/
def thisHost : List Char :=
  "localhost".toList

/-- Reads whom a request is for.  Behind the authority of an address another address may stand, and
once more in the path of that one; the path that is left at last counts. -/
def Request.recipient (r : Request) : Except Fault Recipient := do
  let outer ← Address.read r.address.toList
  let inner ← Address.read outer.pathAndQuery
  let innermost ← (← Address.read inner.path).settled
  let authority := Authority.ofText (if outer.authority.isEmpty then thisHost else outer.authority)
  let settled ← authority.place
  Authority.check settled
  unless r.payload.all Payload.isOneLine do throw .brokenLine
  let place := if authority.user.isEmpty && Authority.isPlain settled then settled else []
  Authority.checkName place
  let path := Text.percentDecode innermost.upToPath
  return { place, path := path.dropWhile (· == '/'), overWebSocket := outer.isForWebSocket }

/-- Is the host properly named?  What stands behind the first colon is no part of the name. -/
def Recipient.isProper (r : Recipient) : Bool :=
  HostName.isProper (r.place.takeWhile (· != ':'))

/-- Writes each run of slashes as one. -/
def mergeSlashes : List Char → List Char
  | '/' :: rest@('/' :: _) => mergeSlashes rest
  | c :: rest => c :: mergeSlashes rest
  | [] => []

end NetworkTopology.Rest
