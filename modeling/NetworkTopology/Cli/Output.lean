import NetworkTopology.Text.Quoted

/-!
# Output

What is printed is text for any reader: terminal control sequences are left out.  A control sequence
is an escape and an opening bracket, then parameters and intermediates, of which there may be none,
and one final character.  The final character need not be a letter: any from `@` to `~` ends a
sequence, so ESC `[1~` is left out like ESC `[0m`, and what does not end so is no sequence and
stays.
-/

namespace NetworkTopology.Cli

/-- A parameter character of a terminal control sequence. -/
def isParameter (c : Char) : Bool :=
  0x30 ≤ c.toNat && c.toNat ≤ 0x3F

/-- An intermediate character of a terminal control sequence. -/
def isIntermediate (c : Char) : Bool :=
  0x20 ≤ c.toNat && c.toNat ≤ 0x2F

/-- A final character of a terminal control sequence. -/
def isFinal (c : Char) : Bool :=
  0x40 ≤ c.toNat && c.toNat ≤ 0x7E

/-- Goes past the rest of a terminal control sequence: parameters, then intermediates, then one
final character. -/
def controlRest (cs : List Char) : Option (List Char) :=
  match (cs.dropWhile isParameter).dropWhile isIntermediate with
  | [] => none
  | c :: rest => if isFinal c then some rest else none

/-- What follows the terminal control sequence that a text starts with. -/
def behindControl : List Char → Option (List Char)
  | '\x1b' :: '[' :: cs => controlRest cs
  | _ => none

theorem length_of_controlRest {cs rest : List Char} (h : controlRest cs = some rest) :
    rest.length < cs.length := by
  have hle := ((List.dropWhile_suffix isIntermediate).trans
    (List.dropWhile_suffix isParameter (l := cs))).length_le
  unfold controlRest at h
  split at h
  · cases h
  · rename_i c tail heq
    rw [heq, List.length_cons] at hle
    split at h
    · cases h
      exact hle
    · cases h

theorem length_of_behindControl {cs rest : List Char} (h : behindControl cs = some rest) :
    rest.length < cs.length := by
  unfold behindControl at h
  split at h
  · have := length_of_controlRest h
    simp only [List.length_cons]
    omega
  · cases h

def dropControls : List Char → List Char
  | [] => []
  | c :: cs =>
    match _h : behindControl (c :: cs) with
    | some rest => dropControls rest
    | none => c :: dropControls cs
termination_by cs => cs.length
decreasing_by
  · exact length_of_behindControl _h
  · simp

/-- A text without escapes is printed as it is. -/
theorem dropControls_of_not_mem {cs : List Char} (h : '\x1b' ∉ cs) : dropControls cs = cs := by
  induction cs with
  | nil => simp [dropControls]
  | cons c cs ih =>
    have hc : behindControl (c :: cs) = none := by
      unfold behindControl
      split
      · rename_i heq
        cases heq
        simp at h
      · rfl
    rw [dropControls]
    split
    · rename_i heq
      rw [hc] at heq
      cases heq
    · rw [ih fun hm => h (List.mem_cons_of_mem c hm)]

/-- The characters of a printed line, if it has no surrogate, which cannot be encoded. -/
def printedLine? (line : String) : Option (List Char) :=
  (Text.characters? (dropControls line.toList)).map (· ++ ['\n'])

/-- What is printed of lines: those in front of the first that cannot be encoded. -/
structure Printout where
  characters : List Char := []
  /-- Are all lines printed? -/
  isComplete : Bool
  deriving DecidableEq, Repr

/-- Prints lines one after the other. -/
def Printout.ofLines : List String → Printout
  | [] => { isComplete := true }
  | line :: lines =>
    match printedLine? line with
    | none => { isComplete := false }
    | some cs =>
      let behind := ofLines lines
      { behind with characters := cs ++ behind.characters }

/-- A code point as it is shown where it need not be encoded. -/
def shownPoint (n : Nat) : List Char :=
  match Text.character? n with
  | some c => [c]
  | none => Text.escapeCodePoint n

/-- The text of a line among the errors, which is shown whatever it holds. -/
def errorText (line : String) : String :=
  String.ofList ((Text.points (dropControls line.toList)).flatMap shownPoint ++ ['\n'])

end NetworkTopology.Cli
