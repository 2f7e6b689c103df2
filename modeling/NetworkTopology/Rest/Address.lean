import NetworkTopology.Rest.Authority

/-!
# Addresses

An address consists of a scheme with a colon, an authority behind two slashes, a path, a query
behind a question mark, and a fragment behind a number sign; all but the path may be missing.
Reading an address passes over spaces and control characters in front, and over tabs and line ends
anywhere.
-/

namespace NetworkTopology.Rest

open NetworkTopology.Text (cut)

/-- The parts of an address, its fragment left out. -/
structure Address where
  scheme : List Char := []
  authority : List Char := []
  path : List Char := []
  query : List Char := []
  deriving DecidableEq, Repr, Inhabited

namespace Address

/-- An address without the characters that are passed over. -/
def clean (cs : List Char) : List Char :=
  (cs.dropWhile fun c => c.toNat ≤ 0x20).filter fun c => c != '\t' && c != '\n' && c != '\r'

def isSchemeCharacter (c : Char) : Bool :=
  c.isAlphanum || c = '+' || c = '-' || c = '.'

/-- Is a text a scheme?  A scheme starts with a letter. -/
def isScheme : List Char → Bool
  | [] => false
  | c :: cs => c.isAlpha && cs.all isSchemeCharacter

/-- The scheme of an address, in small letters, and what follows its colon. -/
def splitScheme (cs : List Char) : List Char × List Char :=
  match cs.takeWhile (· != ':'), cs.dropWhile (· != ':') with
  | name, _ :: rest => if isScheme name then (name.map Char.toLower, rest) else ([], cs)
  | _, [] => ([], cs)

def endsAuthority (c : Char) : Bool :=
  c = '/' || c = '?' || c = '#'

/-- The authority of an address without scheme, and what follows it. -/
def splitAuthority : List Char → List Char × List Char
  | '/' :: '/' :: cs =>
    (cs.takeWhile fun c => !endsAuthority c, cs.dropWhile fun c => !endsAuthority c)
  | cs => ([], cs)

def read (cs : List Char) : Except Fault Address := do
  let (scheme, rest) := splitScheme (clean cs)
  let (authority, rest) := splitAuthority rest
  let (path, query) := cut (· == '?') (cut (· == '#') rest).1
  Authority.check authority
  return { scheme, authority, path, query }

def pathAndQuery (a : Address) : List Char :=
  if a.query.isEmpty then a.path else a.path ++ '?' :: a.query

/-- An address as it is written, up to its path. -/
def upToPath (a : Address) : List Char :=
  (if a.scheme.isEmpty then [] else a.scheme ++ [':'])
    ++ (if a.authority.isEmpty then [] else "//".toList ++ a.authority) ++ a.path

/-- An address with its authority settled. -/
def settled (a : Address) : Except Fault Address := do
  return { a with authority := ← Authority.settle a.authority }

def isForWebSocket (a : Address) : Bool :=
  a.scheme == "ws".toList || a.scheme == "wss".toList

end Address

end NetworkTopology.Rest
