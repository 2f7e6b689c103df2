import NetworkTopology.Text.Prepared
import NetworkTopology.Text.Punycode
import NetworkTopology.Text.Split

/-!
# Host names

A host name consists of labels with dots between them, and a dot may stand behind the last one.  A
label in any script is written in ASCII characters: it is prepared, so that all its spellings come
to the same, and if that is not ASCII yet, written in Punycode behind the mark `xn--`.  A label is
never empty and never longer than 63 characters.
-/

namespace NetworkTopology.Rest.HostName

open NetworkTopology.Text (split)

def isAscii (cs : List Char) : Bool :=
  cs.all fun c => c.toNat < 0x80

/-- The mark of labels that are written in Punycode. -/
def mark : List Char := "xn--".toList

/-- A label, if it is neither empty nor too long. -/
def bounded? (label : List Char) : Option (List Char) :=
  if !label.isEmpty && label.length < 64 then some label else none

def labelToAscii? (label : List Char) : Option (List Char) :=
  if isAscii label then bounded? label
  else do
    let prepared ← Text.prepared? label
    if isAscii prepared then bounded? prepared
    else if mark.isPrefixOf prepared then none
    else bounded? (mark ++ Text.Punycode.encode prepared)

/-- The dots that separate labels in any script. -/
def isDot (c : Char) : Bool :=
  c = '.' || c = '\u3002' || c = '\uFF0E' || c = '\uFF61'

/-- The labels of a name.  An empty one at the end stands for the dot behind the last label. -/
def labels (name : List Char) : List (List Char) × Bool :=
  let parts := split isDot name
  if parts.getLast? = some [] then (parts.dropLast, true) else (parts, false)

/-- The ASCII spelling of a name.  No name at all is spelled so already. -/
def toAscii? (name : List Char) : Option (List Char) :=
  if name.isEmpty then some []
  else do
    let (parts, dotted) := labels name
    let spelled ← parts.mapM labelToAscii?
    return List.intercalate ['.'] spelled ++ (if dotted then ['.'] else [])

/-- The label in any script that an ASCII label stands for.  A label with the mark must be the
spelling of something. -/
def labelOfAscii? (label : List Char) : Option (List Char) :=
  if mark.isPrefixOf label then do
    let decoded ← Text.Punycode.decode? (label.drop mark.length)
    let spelled ← labelToAscii? decoded
    if label.map Char.toLower = spelled then some decoded else none
  else some label

/-- The labels in any script that an ASCII name stands for. -/
def ofAscii? (name : List Char) : Option (List (List Char)) :=
  (split (· == '.') name).mapM labelOfAscii?

/-- Is every label of an ASCII name that has another one behind it there, and none too long? -/
def isProper (name : List Char) : Bool :=
  let parts := split (· == '.') name
  parts.dropLast.all (fun label => !label.isEmpty) && parts.all fun label => label.length < 64

end NetworkTopology.Rest.HostName
