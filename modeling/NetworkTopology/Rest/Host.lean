import NetworkTopology.Number.Decimal
import NetworkTopology.Text.Hexadecimal
import NetworkTopology.Text.Split

/-!
# Hosts in brackets

A host that is not named stands in brackets: an IPv6 address, or an address of a later version.
-/

namespace NetworkTopology.Rest.Host

open NetworkTopology.Text (split hexValue?)

/-- A number from 0 to 255, without superfluous zeros. -/
def isOctet (cs : List Char) : Bool :=
  !cs.isEmpty && cs.length ≤ 3 && cs.all Char.isDigit && (cs.head? != some '0' || cs.length == 1)
    && Decimal.ofNatural cs ≤ 255

/-- An IPv4 address: four octets with dots between them. -/
def isIPv4 (cs : List Char) : Bool :=
  let octets := split (· == '.') cs
  octets.length == 4 && octets.all isOctet

/-- A group of an IPv6 address: one to four hexadecimal digits. -/
def isGroup (cs : List Char) : Bool :=
  !cs.isEmpty && cs.length ≤ 4 && cs.all fun c => (hexValue? c).isSome

/-- How many groups some parts of an IPv6 address stand for.  The very last part may be an IPv4
address, which stands for two. -/
def groupCount? (final : Bool) : List (List Char) → Option Nat
  | [] => some 0
  | [part] =>
    if isGroup part then some 1
    else if final && isIPv4 part then some 2
    else none
  | part :: parts =>
    if isGroup part then (groupCount? final parts).map (· + 1) else none

/-- How many groups a text between double colons stands for; an empty one stands for none. -/
def groups? (final : Bool) (cs : List Char) : Option Nat :=
  if cs.isEmpty then some 0 else groupCount? final (split (· == ':') cs)

/-- What stands before and behind the first double colon. -/
def aroundGap? : List Char → Option (List Char × List Char)
  | ':' :: ':' :: cs => some ([], cs)
  | c :: cs => (aroundGap? cs).map fun around => (c :: around.1, around.2)
  | [] => none

/-- The groups of an IPv6 address are eight, or fewer around a double colon, which stands for the
missing ones. -/
def hasEightGroups (cs : List Char) : Bool :=
  match aroundGap? cs with
  | none => groups? true cs == some 8
  | some (before, behind) =>
    match groups? false before, groups? true behind with
    | some m, some n => m + n ≤ 7
    | _, _ => false

/-- An IPv6 address, possibly with a scope behind a percent sign. -/
def isIPv6 (cs : List Char) : Bool :=
  match split (· == '%') cs with
  | [address] => hasEightGroups address
  | [address, scope] => !scope.isEmpty && hasEightGroups address
  | _ => false

/-- An address of a later version: the letter `v`, the version in hexadecimal digits, and anything
behind a dot. -/
def isLaterVersion : List Char → Bool
  | 'v' :: cs =>
    let isHexadecimal := fun c => (hexValue? c).isSome
    match cs.takeWhile isHexadecimal, cs.dropWhile isHexadecimal with
    | _ :: _, '.' :: _ :: _ => true
    | _, _ => false
  | _ => false

/-- What may stand in brackets. -/
def isLiteral (cs : List Char) : Bool :=
  if cs.head? = some 'v' then isLaterVersion cs else isIPv6 cs

end NetworkTopology.Rest.Host
