import Mathlib.Algebra.Group.Nat.Defs
import NetworkTopology.Proofs.Text.Spelling
import NetworkTopology.Text.Quoted
import NetworkTopology.Text.Table

/-!
# Reading quoted text

Each code point of a quoted text can be read back, whatever follows it, and none starts
with the quotation mark.  So the text ends at the first mark that is not behind a
backslash, and what stands before it tells which text was quoted.
-/

namespace NetworkTopology.Text

theorem hexNumber_hexDigits (width n : Nat) : hexNumber (hexDigits width n) = n % 16 ^ width := by
  induction width generalizing n with
  | zero => exact (Nat.mod_one n).symm
  | succ width ih =>
      have hdigit := hexValue?_hexDigit (Nat.mod_lt n (by decide : 0 < 16))
      have hrest := ih (n / 16)
      rw [hexNumber] at hrest ⊢
      rw [hexDigits, List.foldl_append, hrest, List.foldl_cons, List.foldl_nil, hdigit,
        Option.getD_some, Nat.pow_succ', Nat.mod_mul, Nat.add_comm]

theorem length_hexDigits (width n : Nat) : (hexDigits width n).length = width := by
  induction width generalizing n with
  | zero => rfl
  | succ width ih => rw [hexDigits, List.length_append, ih, List.length_singleton]

/-- Reads an escape of a code point: its digits are as many as its letter says. -/
def readCodePoint (width : Nat) (cs : List Char) : Nat × List Char :=
  (hexNumber (cs.take width), cs.drop width)

def readQuoted : List Char → Option (Nat × List Char)
  | [] => none
  | '\\' :: 't' :: rest => some ('\t'.toNat, rest)
  | '\\' :: 'n' :: rest => some ('\n'.toNat, rest)
  | '\\' :: 'r' :: rest => some ('\r'.toNat, rest)
  | '\\' :: 'x' :: rest => some (readCodePoint 2 rest)
  | '\\' :: 'u' :: rest => some (readCodePoint 4 rest)
  | '\\' :: 'U' :: rest => some (readCodePoint 8 rest)
  | '\\' :: c :: rest => some (c.toNat, rest)
  | c :: rest => some (c.toNat, rest)

theorem readCodePoint_hexDigits {width n : Nat} (h : n < 16 ^ width) (rest : List Char) :
    readCodePoint width (hexDigits width n ++ rest) = (n, rest) := by
  have hlength := length_hexDigits width n
  rw [readCodePoint, List.take_left' hlength, List.drop_left' hlength, hexNumber_hexDigits,
    Nat.mod_eq_of_lt h]

def IsMark (c : Char) : Prop :=
  c = '\'' ∨ c = '"'

theorem IsMark.mem {c : Char} (h : IsMark c) : c ∈ ['\'', '"'] := by
  rcases h with rfl | rfl
  · exact List.mem_cons_self
  · exact List.mem_cons_of_mem _ List.mem_cons_self

theorem IsMark.ne {c other : Char} (h : IsMark c) (hother : other ∉ ['\'', '"']) : c ≠ other :=
  ne_of_mem_of_not_mem h.mem hother

theorem readQuoted_of_ne {c : Char} (h : c ≠ '\\') (rest : List Char) :
    readQuoted (c :: rest) = some (c.toNat, rest) := by
  unfold readQuoted
  split <;> simp_all

theorem readQuoted_escapeCodePoint {n : Nat} (h : n ≤ beyond) (rest : List Char) :
    readQuoted (escapeCodePoint n ++ rest) = some (n, rest) := by
  unfold escapeCodePoint
  split
  · rename_i hbyte
    exact congrArg some (readCodePoint_hexDigits (Nat.lt_succ_of_le hbyte) rest)
  · split
    · rename_i hpair
      exact congrArg some (readCodePoint_hexDigits (Nat.lt_succ_of_le hpair) rest)
    · have hbound : n < 16 ^ 8 := Nat.lt_of_le_of_lt h (by decide)
      exact congrArg some (readCodePoint_hexDigits hbound rest)

theorem readQuoted_quotedChar {mark : Char} (hmark : IsMark mark) (c : Char) (rest : List Char) :
    readQuoted (quotedChar mark c ++ rest) = some (c.toNat, rest) := by
  unfold quotedChar
  split
  · rename_i hself
    rcases hself with rfl | rfl
    · rcases hmark with rfl | rfl <;> rfl
    · rfl
  · rename_i hself
    split
    · rename_i htab
      rw [htab]
      rfl
    · split
      · rename_i hline
        rw [hline]
        rfl
      · split
        · rename_i hreturn
          rw [hreturn]
          rfl
        · split
          · exact readQuoted_of_ne (not_or.mp hself).2 rest
          · exact readQuoted_escapeCodePoint (toNat_le c) rest

theorem readQuoted_quotedPoint {mark : Char} (hmark : IsMark mark) {n : Nat} (h : n ≤ beyond)
    (rest : List Char) : readQuoted (quotedPoint mark n ++ rest) = some (n, rest) := by
  cases hcharacter : character? n with
  | none =>
      simp only [quotedPoint, hcharacter]
      exact readQuoted_escapeCodePoint h rest
  | some c =>
      simp only [quotedPoint, hcharacter]
      rw [readQuoted_quotedChar hmark, toNat_of_character? hcharacter]

/-- No quoted code point starts with the quotation mark: the mark would be read back, but
it is quoted behind a backslash. -/
theorem mark_cons_ne_quotedPoint {mark : Char} (hmark : IsMark mark) {n : Nat} (h : n ≤ beyond)
    (back rest : List Char) : mark :: back ≠ quotedPoint mark n ++ rest := by
  intro heq
  have hbackslash : mark ≠ '\\' := hmark.ne (by decide)
  have hread := congrArg readQuoted heq
  rw [readQuoted_of_ne hbackslash, readQuoted_quotedPoint hmark h] at hread
  obtain ⟨rfl, -⟩ := Prod.mk.inj (Option.some.inj hread)
  have hquoted : quotedPoint mark mark.toNat = ['\\', mark] := by
    simp only [quotedPoint, character?_toNat]
    exact if_pos (.inl rfl)
  rw [hquoted] at heq
  exact hbackslash (List.cons.inj heq).1

/-- Up to the closing mark the code points are read back one by one. -/
theorem eq_of_quotedPoints {mark : Char} (hmark : IsMark mark) {ms ns : List Nat}
    (hms : ∀ m ∈ ms, m ≤ beyond) (hns : ∀ n ∈ ns, n ≤ beyond) {back rest : List Char}
    (h : ms.flatMap (quotedPoint mark) ++ mark :: back =
      ns.flatMap (quotedPoint mark) ++ mark :: rest) : ms = ns ∧ back = rest := by
  have hend : ∀ {n : Nat} {ns : List Nat} {back rest : List Char}, n ≤ beyond →
      mark :: back ≠ (n :: ns).flatMap (quotedPoint mark) ++ mark :: rest := by
    intro n ns back rest hn
    rw [List.flatMap_cons, List.append_assoc]
    exact mark_cons_ne_quotedPoint hmark hn _ _
  induction ms generalizing ns with
  | nil =>
      cases ns with
      | nil => exact ⟨rfl, (List.cons.inj h).2⟩
      | cons n ns => exact absurd h (hend (hns n List.mem_cons_self))
  | cons m ms ih =>
      rw [List.forall_mem_cons] at hms
      cases ns with
      | nil => exact absurd h.symm (hend hms.1)
      | cons n ns =>
          rw [List.forall_mem_cons] at hns
          rw [List.flatMap_cons, List.flatMap_cons, List.append_assoc, List.append_assoc] at h
          have hread := congrArg readQuoted h
          rw [readQuoted_quotedPoint hmark hms.1, readQuoted_quotedPoint hmark hns.1] at hread
          obtain ⟨rfl, hrest⟩ := Prod.mk.inj (Option.some.inj hread)
          obtain ⟨rfl, hback⟩ := ih hms.2 hns.2 hrest
          exact ⟨rfl, hback⟩

theorem isMark_quotationMark (cs : List Char) : IsMark (quotationMark cs) := by
  unfold quotationMark
  split
  · exact .inr rfl
  · exact .inl rfl

theorem toList_quoted (s : String) :
    (quoted s).toList = quotationMark s.toList ::
      ((points s.toList).flatMap (quotedPoint (quotationMark s.toList)) ++
        [quotationMark s.toList]) := by
  rw [quoted, String.toList_ofList, List.cons_append]

/-- A quoted text tells which text was quoted and where it ends. -/
theorem eq_of_quoted_append {s t : String} {back rest : List Char}
    (h : (quoted s).toList ++ back = (quoted t).toList ++ rest) : s = t ∧ back = rest := by
  rw [toList_quoted, toList_quoted, List.cons_append, List.cons_append, List.append_assoc,
    List.append_assoc] at h
  obtain ⟨hmark, hquoted⟩ := List.cons.inj h
  rw [hmark] at hquoted
  obtain ⟨hpoints, hrest⟩ := eq_of_quotedPoints (isMark_quotationMark t.toList)
    (fun _ => le_of_mem_points) (fun _ => le_of_mem_points) hquoted
  exact ⟨String.toList_inj.mp (points_injective hpoints), hrest⟩

end NetworkTopology.Text
