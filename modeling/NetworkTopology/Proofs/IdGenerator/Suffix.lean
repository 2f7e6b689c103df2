import NetworkTopology.Proofs.IdGenerator.Step
import NetworkTopology.Proofs.Number.Literal

/-!
# The integer of an id

Behind its stem, an id is read as the integer of a literal with blanks around it, and as
zero where there is none.  So the integer that an id was made from is read back, however
the stem ends.
-/

namespace NetworkTopology

namespace IdGenerator

open IntegerLiteral (Denotes read? Writable)

theorem suffix_append (stem rest : String) :
    suffix stem (stem ++ rest) = (read? (Text.trim rest.toList)).getD 0 := by
  rw [suffix, String.toList_append, ← String.length_toList, List.drop_left]

/-- A literal behind the stem is read as what it denotes. -/
theorem suffix_of_denotes {rest : String} {n : Int} (h : Denotes Text.isBlank rest.toList n)
    (stem : String) : suffix stem (stem ++ rest) = n := by
  rw [suffix_append, IntegerLiteral.read?_trim_eq_some_iff.mpr h, Option.getD_some]

/-- Zero is read where there is no literal, or one that denotes zero. -/
theorem suffix_append_eq_zero_iff (stem rest : String) :
    suffix stem (stem ++ rest) = 0 ↔
      (¬ ∃ n, Denotes Text.isBlank rest.toList n) ∨ Denotes Text.isBlank rest.toList 0 := by
  constructor
  · intro hzero
    by_cases hliteral : ∃ n, Denotes Text.isBlank rest.toList n
    · obtain ⟨n, hn⟩ := hliteral
      rw [suffix_of_denotes hn] at hzero
      rw [hzero] at hn
      exact .inr hn
    · exact .inl hliteral
  · rintro (hnone | hzero)
    · have hread : read? (Text.trim rest.toList) = none := by
        rw [Option.eq_none_iff_forall_ne_some]
        intro n hn
        exact hnone ⟨n, IntegerLiteral.read?_trim_eq_some_iff.mp hn⟩
      rw [suffix_append, hread, Option.getD_none]
    · exact suffix_of_denotes hzero stem

/-- Between blanks, the numeral of an integer is a literal of it. -/
theorem denotes_text {front back : String} {n : Int} (h : Writable n)
    (hfront : ∀ c ∈ front.toList, Text.isBlank c = true)
    (hback : ∀ c ∈ back.toList, Text.isBlank c = true) :
    Denotes Text.isBlank (front ++ Decimal.text n ++ back).toList n := by
  have hnumeral : Denotes Text.whiteSpace.holds (Decimal.integer n) n :=
    IntegerLiteral.read?_eq_some_iff.mp (IntegerLiteral.read?_integer h)
  rw [String.toList_append, Decimal.toList_append_text]
  exact (hnumeral.mono fun _ => Text.isBlank_of_whiteSpace).surround hfront hback

/-- Whatever the stem, the integer that stands behind it is read back, with blanks around
it or without; ids of different integers are different; and an id of the stem is read as
zero exactly if what stands behind the stem is no literal between blanks, or one that
denotes zero. -/
theorem suffix_inverts_numbering (stem : String) :
    (∀ (front back : String) (n : Int), Writable n →
      (∀ c ∈ front.toList, Text.isBlank c = true) → (∀ c ∈ back.toList, Text.isBlank c = true) →
      suffix stem (stem ++ (front ++ Decimal.text n ++ back)) = n) ∧
    (∀ m n : Int, m ≠ n → stem ++ Decimal.text m ≠ stem ++ Decimal.text n) ∧
    ∀ id, hasStem stem id = true → ∃ rest, id = stem ++ rest ∧
      (∀ n, Denotes Text.isBlank rest.toList n → suffix stem id = n) ∧
      (suffix stem id = 0 ↔
        (¬ ∃ n, Denotes Text.isBlank rest.toList n) ∨ Denotes Text.isBlank rest.toList 0) := by
  refine ⟨?_, ?_, ?_⟩
  · intro front back n hwritable hfront hback
    exact suffix_of_denotes (denotes_text hwritable hfront hback) stem
  · intro m n hne heq
    exact hne (Decimal.append_text_inj.mp heq)
  · intro id hstem
    obtain ⟨rest, hrest⟩ := List.isPrefixOf_iff_prefix.mp hstem
    have hid : id = stem ++ String.ofList rest := by
      rw [← String.toList_inj, String.toList_append, String.toList_ofList, hrest]
    rw [hid]
    exact ⟨_, rfl, fun n hn => suffix_of_denotes hn stem, suffix_append_eq_zero_iff stem _⟩

/-- A stem may end in a digit and a sign, and an information separator is a blank.  A
letter behind foreign digits keeps them from being a literal. -/
theorem suffix_behind_sign :
    suffix "v1-" ("v1-" ++ ("\u2003\x1c" ++ Decimal.text (-7) ++ "\x85")) = -7 ∧
      "v1-" ++ Decimal.text (-7) ≠ "v1-" ++ Decimal.text 7 ∧
      hasStem "v1-" "v1-٣x" = true ∧ suffix "v1-" "v1-٣x" = 0 ∧
      ∃ rest, "v1-٣x" = "v1-" ++ rest ∧
        ((¬ ∃ n, Denotes Text.isBlank rest.toList n) ∨ Denotes Text.isBlank rest.toList 0) := by
  have hwritable : Writable (-7) := IntegerLiteral.writable_of_lt_ten (by decide)
  have hfront : ∀ c ∈ "\u2003\x1c".toList, Text.isBlank c = true :=
    List.all_eq_true.mp (by decide +kernel)
  have hback : ∀ c ∈ "\x85".toList, Text.isBlank c = true :=
    List.all_eq_true.mp (by decide +kernel)
  obtain ⟨hread, hdifferent, hrest⟩ := suffix_inverts_numbering "v1-"
  have hstem : hasStem "v1-" "v1-٣x" = true := by decide +kernel
  have hzero : suffix "v1-" "v1-٣x" = 0 := by decide +kernel
  obtain ⟨rest, heq, -, hiff⟩ := hrest _ hstem
  exact ⟨hread _ _ _ hwritable hfront hback, hdifferent _ _ (by decide), hstem, hzero,
    rest, heq, hiff.mp hzero⟩

/-- What is trimmed of an id is more than what may stand around a literal: an information
separator keeps the rest of an id from being a literal, but not from being read. -/
theorem separator_is_trimmed :
    ¬ (suffix "v" ("v" ++ "\x1c5") = 0 ↔
      read? "\x1c5".toList = none ∨ read? "\x1c5".toList = some 0) := by
  have hsuffix : suffix "v" ("v" ++ "\x1c5") = 5 := by decide +kernel
  have hread : read? "\x1c5".toList = none := by decide +kernel
  rw [hsuffix, hread]
  decide

end IdGenerator

end NetworkTopology
