/-!
# Punycode

A text in any script written with ASCII letters, digits and hyphens.  The ASCII characters come
first, and behind a hyphen a sequence of numbers says which other characters to insert, in ascending
order, and where.  A number is written in digits of base 36, the lowest first; each place has a
threshold, which adapts to the numbers seen so far, and a digit below it is the last one.
-/

namespace NetworkTopology.Text

namespace Punycode

/-- The digit of a value below 36. -/
def digit (d : Nat) : Char :=
  if d < 26 then Char.ofNat ('a'.toNat + d) else Char.ofNat ('0'.toNat + (d - 26))

def value? (c : Char) : Option Nat :=
  if 'a' ≤ c ∧ c ≤ 'z' then some (c.toNat - 'a'.toNat)
  else if 'A' ≤ c ∧ c ≤ 'Z' then some (c.toNat - 'A'.toNat)
  else if '0' ≤ c ∧ c ≤ '9' then some (c.toNat - '0'.toNat + 26)
  else none

/-- The threshold of a place, counted in steps of 36. -/
def threshold (bias place : Nat) : Nat :=
  max 1 (min 26 (place - bias))

theorem threshold_pos (bias place : Nat) : 0 < threshold bias place := by
  simp only [threshold]
  omega

/-- Brings a number down to 455 or less, and counts how often it was divided, in steps of 36. -/
def scale (n : Nat) : Nat × Nat :=
  if n ≤ 455 then (n, 0)
  else
    let (n, divisions) := scale (n / 35)
    (n, divisions + 36)
termination_by n
decreasing_by omega

/-- The bias after a number, the first one or not, by which a text has grown to some length. -/
def adapt (isFirst : Bool) (number length : Nat) : Nat :=
  let damped := number / (if isFirst then 700 else 2)
  let (n, divisions) := scale (damped + damped / length)
  divisions + 36 * n / (n + 38)

/-- The digits of a number from a place on. -/
def digits (bias place n : Nat) : List Char :=
  let t := threshold bias place
  if n < t then [digit n]
  else digit (t + (n - t) % (36 - t)) :: digits bias (place + 36) ((n - t) / (36 - t))
termination_by n
decreasing_by
  have := threshold_pos bias place
  have := Nat.div_le_self (n - threshold bias place) (36 - threshold bias place)
  omega

/-- Where writing stands: what is written so far, the number to write next, the bias, and how many
characters are taken care of. -/
structure Writing where
  written : List Char := []
  number : Nat := 0
  bias : Nat := 72
  isFirst : Bool := true
  done : Nat

/-- Passes a character of the text while occurrences of a code point are written. -/
def Writing.pass (code : Nat) (w : Writing) (c : Char) : Writing :=
  if c.toNat < code then { w with number := w.number + 1 }
  else if c.toNat = code then
    { written := w.written ++ digits w.bias 36 w.number
      number := 0
      bias := adapt w.isFirst w.number (w.done + 1)
      isFirst := false
      done := w.done + 1 }
  else w

/-- Writes the occurrences of code points in ascending order; `next` is the lowest that could have
come. -/
def writeAll (cs : List Char) : List Nat → Nat → Writing → Writing
  | [], _, w => w
  | code :: codes, next, w =>
    let start := { w with number := w.number + (code - next) * (w.done + 1) }
    let after := cs.foldl (Writing.pass code) start
    writeAll cs codes (code + 1) { after with number := after.number + 1 }

def encode (cs : List Char) : List Char :=
  let plain := cs.filter fun c => c.toNat < 0x80
  let codes := (cs.filter fun c => 0x80 ≤ c.toNat).map Char.toNat
  let writing := writeAll cs (codes.eraseDups.mergeSort fun x y => x ≤ y) 0x80
    { done := plain.length }
  (if plain.isEmpty then [] else plain ++ ['-']) ++ writing.written

/-- Where reading stands: the text so far, the code point and the place of the last insertion, the
bias, and the number of which some digits have been read. -/
structure Reading where
  text : List Char
  code : Nat := 0x80
  position : Nat := 0
  bias : Nat := 72
  isFirst : Bool := true
  number : Nat := 0
  weight : Nat := 1
  place : Nat := 36

/-- Inserts the character that a complete number stands for. -/
def Reading.insert (r : Reading) : Option Reading :=
  let length := r.text.length + 1
  let position := r.position + r.number
  let code := r.code + position / length
  if code.isValidChar then
    some {
      text := r.text.insertIdx (position % length) (Char.ofNat code)
      code
      position := position % length + 1
      bias := adapt r.isFirst r.number length
      isFirst := false }
  else none

def Reading.step (r : Reading) (c : Char) : Option Reading := do
  let d ← value? c
  let t := threshold r.bias r.place
  let r := { r with number := r.number + d * r.weight }
  if d < t then r.insert
  else some { r with weight := r.weight * (36 - t), place := r.place + 36 }

/-- What stands before the last hyphen, and what behind it. -/
def splitLast (cs : List Char) : List Char × List Char :=
  let behind := (cs.reverse.takeWhile (· != '-')).reverse
  (cs.take (cs.length - behind.length - 1), behind)

/-- Reads a text, if it is written so; the last number must be complete. -/
def decode? (cs : List Char) : Option (List Char) := do
  let (plain, behind) := splitLast cs
  let r ← behind.foldlM Reading.step { text := plain }
  if r.place = 36 then some r.text else none

end Punycode

end NetworkTopology.Text
