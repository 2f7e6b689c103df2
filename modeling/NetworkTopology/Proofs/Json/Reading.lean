import Mathlib.Data.List.TakeWhile
import NetworkTopology.Json.Reader
import NetworkTopology.Proofs.Json.Distinct
import NetworkTopology.Proofs.Number.Canonical
import NetworkTopology.Proofs.Number.ReadBack
import NetworkTopology.Proofs.Result

/-!
# Documents that were read

Whatever the reader makes is made of constants, integers that can be written, doubles of
the format and strings by lists and by objects with distinct fields.  A property that these have and
that lists and objects keep is one of every document that was read.
-/

namespace NetworkTopology.Json

/-- A property of what is read and of the lists and objects that are made of it. -/
structure KeptByReader (good : Json → Prop) : Prop where
  null : good null
  bool : ∀ value : Bool, good (bool value)
  int : ∀ value : Int, IntegerLiteral.Writable value → good (int value)
  float : ∀ value : Binary64, value.Canonical → good (float value)
  str : ∀ value : String, good (str value)
  arr : ∀ items : List Json, (∀ item ∈ items, good item) → good (arr items)
  obj : ∀ fields : Fields, fields.Distinct → (∀ field ∈ fields, good field.2) → good (obj fields)

theorem lt_ten_of_mem_splitDigits {cs : List Char} {d : Nat} (h : d ∈ (splitDigits cs).1) :
    d < 10 := by
  obtain ⟨c, hc, rfl⟩ := List.mem_map.mp h
  have hdigit := List.mem_takeWhile_imp hc
  rw [Char.isDigit, Bool.and_eq_true, decide_eq_true_eq, decide_eq_true_eq] at hdigit
  have hhigh : c.toNat ≤ '9'.toNat := hdigit.2
  have hnine : '9'.toNat = 57 := rfl
  have hzero : '0'.toNat = 48 := rfl
  omega

namespace KeptByReader

variable {good : Json → Prop}

theorem of_readUnsigned (hgood : KeptByReader good) {negative : Bool} {cs rest : List Char}
    {document : Json} (h : readUnsigned negative cs = .ok (document, rest)) : good document := by
  unfold readUnsigned at h
  split at h
  rename_i whole rest hsplit
  have hwhole : ∀ d ∈ whole, d < 10 := by
    split at hsplit
    · cases hsplit
      decide
    · intro d hd
      have hmem : d ∈ (splitDigits cs).1 := by
        rw [hsplit]
        exact hd
      exact lt_ten_of_mem_splitDigits hmem
  split at h
  · cases h
  · dsimp only at h
    split at h
    · split at h
      · rename_i hlimit
        have hwritable := IntegerLiteral.writable_ofDigits hwhole hlimit
        cases h
        refine hgood.int _ ?_
        split
        · exact IntegerLiteral.writable_neg_iff.mpr hwritable
        · exact hwritable
      · cases h
    · cases h
      exact hgood.float _ (Binary64.canonical_ofDecimal _ _ _)

theorem of_readPlain (hgood : KeptByReader good) {cs rest : List Char} {document : Json}
    (h : readPlain cs = .ok (document, rest)) : good document := by
  unfold readPlain at h
  split at h
  · cases h
    exact hgood.null
  · cases h
    exact hgood.bool true
  · cases h
    exact hgood.bool false
  · cases h
    exact hgood.float _ trivial
  · cases h
    exact hgood.float _ trivial
  · cases h
    exact hgood.float _ trivial
  · exact hgood.of_readUnsigned h
  · exact hgood.of_readUnsigned h

/-- The readers recurse on the fuel, and what they have read before has the property,
too. -/
theorem of_readers (hgood : KeptByReader good) (fuel : Nat) :
    (∀ cs document rest, readValue fuel cs = .ok (document, rest) → good document) ∧
    (∀ cs items document rest, (∀ item ∈ items, good item) →
      readItems fuel cs items = .ok (document, rest) → good document) ∧
    (∀ cs fields document rest, fields.Distinct → (∀ field ∈ fields, good field.2) →
      readFields fuel cs fields = .ok (document, rest) → good document) := by
  induction fuel with
  | zero =>
      refine ⟨?_, ?_, ?_⟩
      · intro cs document rest h
        cases h
      · intro cs items document rest hitems h
        cases h
      · intro cs fields document rest hnames hfields h
        cases h
  | succ fuel ih =>
      obtain ⟨ihValue, ihItems, ihFields⟩ := ih
      refine ⟨?_, ?_, ?_⟩
      · intro cs document rest h
        unfold readValue at h
        split at h
        · obtain ⟨⟨value, after⟩, -, h⟩ := Result.of_bind_ok h
          cases h
          exact hgood.str value
        · split at h
          · cases h
            exact hgood.arr [] (List.forall_mem_nil _)
          · exact ihItems _ _ _ _ (List.forall_mem_nil _) h
        · split at h
          · cases h
            exact hgood.obj [] Fields.distinct_nil (List.forall_mem_nil _)
          · exact ihFields _ _ _ _ Fields.distinct_nil (List.forall_mem_nil _) h
        · exact hgood.of_readPlain h
      · intro cs items document rest hitems h
        unfold readItems at h
        obtain ⟨⟨item, after⟩, hitem, h⟩ := Result.of_bind_ok h
        have hall : ∀ other ∈ item :: items, good other :=
          List.forall_mem_cons.mpr ⟨ihValue _ _ _ hitem, hitems⟩
        dsimp only at h
        split at h
        · cases h
          exact hgood.arr _ fun other hother => hall other (List.mem_reverse.mp hother)
        · exact ihItems _ _ _ _ hall h
        · cases h
      · intro cs fields document rest hnames hfields h
        unfold readFields at h
        split at h
        · obtain ⟨⟨name, after⟩, -, h⟩ := Result.of_bind_ok h
          dsimp only at h
          split at h
          · obtain ⟨⟨value, after'⟩, hvalue, h⟩ := Result.of_bind_ok h
            have hnames' := hnames.set name value
            have hfields' : ∀ field ∈ Fields.set fields name value, good field.2 := by
              intro field hfield
              rcases Fields.mem_set hfield with rfl | hold
              · exact ihValue _ _ _ hvalue
              · exact hfields field hold
            dsimp only at h
            split at h
            · cases h
              exact hgood.obj _ hnames' hfields'
            · exact ihFields _ _ _ _ hnames' hfields' h
            · cases h
          · cases h
        · cases h

theorem of_read (hgood : KeptByReader good) {text : String} {document : Json}
    (h : read text = .ok document) : good document := by
  obtain ⟨⟨value, rest⟩, hvalue, h⟩ := Result.of_bind_ok h
  dsimp only at h
  split at h
  · cases h
    exact (hgood.of_readers _).1 _ _ _ hvalue
  · cases h

end KeptByReader

theorem distinct_keptByReader : KeptByReader Distinct where
  null := .null
  bool := .bool
  int value _ := .int value
  float value _ := .float value
  str := .str
  arr _ := .arr
  obj _ := .obj

theorem distinct_of_read {text : String} {document : Json} (h : read text = .ok document) :
    document.Distinct :=
  distinct_keptByReader.of_read h

/-- A document whose integers can be written and whose doubles are those of the format. -/
inductive Canonical : Json → Prop
  | null : Canonical null
  | bool (value : Bool) : Canonical (bool value)
  | int {value : Int} (h : IntegerLiteral.Writable value) : Canonical (int value)
  | float {value : Binary64} (h : value.Canonical) : Canonical (float value)
  | str (value : String) : Canonical (str value)
  | arr {items : List Json} (h : ∀ item ∈ items, Canonical item) : Canonical (arr items)
  | obj {fields : Fields} (h : ∀ field ∈ fields, Canonical field.2) : Canonical (obj fields)

theorem canonical_keptByReader : KeptByReader Canonical where
  null := .null
  bool := .bool
  int _ := .int
  float _ := .float
  str := .str
  arr _ := .arr
  obj _ _ := .obj

theorem canonical_of_read {text : String} {document : Json} (h : read text = .ok document) :
    document.Canonical :=
  canonical_keptByReader.of_read h

end NetworkTopology.Json
