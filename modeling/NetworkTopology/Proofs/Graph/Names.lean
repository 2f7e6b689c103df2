import NetworkTopology.NodeId
import NetworkTopology.Proofs.Number.Notation
import NetworkTopology.Proofs.Text.Quoted

/-!
# Names by their texts

Messages and vertices show a name by its text.  A name that is no string is known by
its text: within a tuple the items end where a comma or the closing bracket follows,
strings end at their mark, and numbers have notations of their own.  A string stands
for itself, so it may have the text of another name.
-/

namespace NetworkTopology.NodeId

/-- A name whose doubles, at any depth, are those of the format. -/
inductive Canonical : NodeId → Prop
  | null : Canonical null
  | bool (value : Bool) : Canonical (bool value)
  | int (value : Int) : Canonical (int value)
  | float {value : Binary64} (h : value.Canonical) : Canonical (float value)
  | str (value : String) : Canonical (str value)
  | tuple {items : List NodeId} (h : ∀ item ∈ items, Canonical item) : Canonical (tuple items)

/-! ## Words -/

/-- What may follow a name: the end, a comma or a closing bracket. -/
def Ends (cs : List Char) : Prop :=
  ∀ c ∈ cs.head?, c = ',' ∨ c = ')'

/-- Characters without marks and brackets, one at least. -/
structure IsWord (cs : List Char) : Prop where
  ne_nil : cs ≠ []
  bare : ∀ c ∈ cs, c ∉ [',', ')', '(', '\'', '"']

/-- Words end where they are followed by what follows a name. -/
theorem eq_of_word_append {cs ds back rest : List Char} (hcs : IsWord cs) (hds : IsWord ds)
    (hback : Ends back) (hrest : Ends rest) (h : cs ++ back = ds ++ rest) :
    cs = ds ∧ back = rest := by
  have htake : ∀ {cs back : List Char}, (∀ c ∈ cs, c ∉ [',', ')', '(', '\'', '"']) → Ends back →
      (cs ++ back).takeWhile (fun c => c ≠ ',' ∧ c ≠ ')') = cs := by
    intro cs back hbare hback
    have hword : ∀ c ∈ cs, decide (c ≠ ',' ∧ c ≠ ')') = true := by
      intro c hc
      have hnot := hbare c hc
      simp only [List.mem_cons, not_or] at hnot
      exact decide_eq_true ⟨hnot.1, hnot.2.1⟩
    have hstop : back.takeWhile (fun c => decide (c ≠ ',' ∧ c ≠ ')')) = [] := by
      cases back with
      | nil => rfl
      | cons c back =>
          refine List.takeWhile_cons_of_neg ?_
          rcases hback c rfl with rfl | rfl <;> decide
    rw [List.takeWhile_append_of_pos hword, hstop, List.append_nil]
  have hwords := congrArg (List.takeWhile fun c => c ≠ ',' ∧ c ≠ ')') h
  rw [htake hcs.bare hback, htake hds.bare hrest] at hwords
  exact ⟨hwords, List.append_cancel_left (hwords ▸ h)⟩

/-- A character of a number. -/
def IsNumeral (c : Char) : Prop :=
  c.isDigit = true ∨ c ∈ ['.', 'e', '+', '-', 'n', 'a', 'i', 'f']

theorem IsNumeral.bare {c : Char} (h : IsNumeral c) :
    c ∉ [',', ')', '(', '\'', '"'] ∧ c ∉ ['N', 'T', 'F'] := by
  constructor
  · intro hmem
    simp only [List.mem_cons, List.not_mem_nil, or_false] at hmem
    rcases hmem with rfl | rfl | rfl | rfl | rfl <;> exact absurd h (by unfold IsNumeral; decide)
  · intro hmem
    simp only [List.mem_cons, List.not_mem_nil, or_false] at hmem
    rcases hmem with rfl | rfl | rfl <;> exact absurd h (by unfold IsNumeral; decide)

theorem isNumeral_of_mem_integer {n : Int} {c : Char} (h : c ∈ Decimal.integer n) :
    IsNumeral c := by
  have all : ['-', '0', '1', '2', '3', '4', '5', '6', '7', '8', '9'].all
      (fun c => c.isDigit || c ∈ ['.', 'e', '+', '-', 'n', 'a', 'i', 'f']) = true := by decide
  have hcases := List.all_eq_true.mp all c (Decimal.mem_integer_cases h)
  rw [Bool.or_eq_true, decide_eq_true_iff] at hcases
  exact hcases

theorem isNumeral_of_mem_chars {x : Binary64} {c : Char} (h : c ∈ x.chars) : IsNumeral c := by
  have hword : ∀ c ∈ ['n', 'a', 'n', 'i', 'n', 'f'],
      c ∈ ['.', 'e', '+', '-', 'n', 'a', 'i', 'f'] := by simp
  rw [Binary64.chars_eq] at h
  rcases List.mem_append.mp h with h | h
  · split at h
    · rw [List.mem_singleton.mp h]
      exact .inr (by decide)
    · cases h
  · cases x with
    | nan => exact .inr (hword c (List.mem_append_left ['i', 'n', 'f'] h))
    | infinite negative => exact .inr (hword c (List.mem_append_right ['n', 'a', 'n'] h))
    | finite negative m e =>
        obtain ⟨d, hd, rest, hrest, htail⟩ := Binary64.exists_magnitude_finite negative m e
        rw [hrest] at h
        rcases List.mem_cons.mp h with rfl | h
        · exact .inl (Decimal.isDigit_digitChar hd)
        · rcases htail.notational c h with hdigit | hmark
          · exact .inl hdigit
          · exact .inr (List.mem_append_left ['n', 'a', 'i', 'f'] hmark)

theorem toList_shown_int (n : Int) : (shown (int n)).toList = Decimal.integer n :=
  String.toList_ofList

theorem toList_shown_float (x : Binary64) : (shown (float x)).toList = x.chars :=
  String.toList_ofList

theorem isWord_integer (n : Int) : IsWord (Decimal.integer n) := by
  refine ⟨?_, fun c hc => (isNumeral_of_mem_integer hc).bare.1⟩
  have hnatural : Decimal.natural n.natAbs ≠ [] := by
    rw [Decimal.natural, Ne, List.map_eq_nil_iff]
    exact Decimal.digits_ne_nil _
  unfold Decimal.integer
  split
  · exact List.cons_ne_nil _ _
  · exact hnatural

theorem isWord_chars (x : Binary64) : IsWord x.chars := by
  refine ⟨?_, fun c hc => (isNumeral_of_mem_chars hc).bare.1⟩
  rw [Binary64.chars_eq]
  refine List.append_ne_nil_of_right_ne_nil _ ?_
  cases x with
  | nan => exact List.cons_ne_nil _ _
  | infinite negative => exact List.cons_ne_nil _ _
  | finite negative m e =>
      obtain ⟨d, -, rest, hrest, -⟩ := Binary64.exists_magnitude_finite negative m e
      rw [hrest]
      exact List.cons_ne_nil _ _

/-! ## Constants and numbers -/

def IsConstant : NodeId → Prop
  | null | bool _ => True
  | _ => False

def IsNumber : NodeId → Prop
  | int _ | float _ => True
  | _ => False

variable {x y : NodeId}

/-- A constant starts with a letter that is in no number. -/
theorem IsConstant.exists_head (h : x.IsConstant) :
    ∃ c ∈ ['N', 'T', 'F'], (shown x).toList.head? = some c := by
  cases x with
  | null => exact ⟨'N', by decide, rfl⟩
  | bool value =>
      cases value
      · exact ⟨'F', by decide, rfl⟩
      · exact ⟨'T', by decide, rfl⟩
  | _ => exact h.elim

theorem IsNumber.isNumeral (h : x.IsNumber) : ∀ c ∈ (shown x).toList, IsNumeral c := by
  intro c hc
  cases x with
  | int n =>
      rw [toList_shown_int] at hc
      exact isNumeral_of_mem_integer hc
  | float value =>
      rw [toList_shown_float] at hc
      exact isNumeral_of_mem_chars hc
  | _ => exact h.elim

theorem isWord_shown (h : x.IsConstant ∨ x.IsNumber) : IsWord (shown x).toList := by
  cases x with
  | null => exact ⟨by decide, by simp [shown]⟩
  | bool value => cases value <;> exact ⟨by decide, by simp [shown]⟩
  | int n =>
      rw [toList_shown_int]
      exact isWord_integer n
  | float value =>
      rw [toList_shown_float]
      exact isWord_chars value
  | _ => exact h.elim False.elim False.elim

theorem shown_constant_ne_number (hx : x.IsConstant) (hy : y.IsNumber) :
    (shown x).toList ≠ (shown y).toList := by
  intro h
  obtain ⟨c, hc, hhead⟩ := hx.exists_head
  rw [h] at hhead
  exact (hy.isNumeral c (List.mem_of_mem_head? hhead)).bare.2 hc

theorem eq_of_shown_constants (hx : x.IsConstant) (hy : y.IsConstant)
    (h : (shown x).toList = (shown y).toList) : x = y := by
  have htrue : (shown null).toList ≠ (shown (bool true)).toList := by decide
  have hfalse : (shown null).toList ≠ (shown (bool false)).toList := by decide
  have hbool : (shown (bool true)).toList ≠ (shown (bool false)).toList := by decide
  cases x with
  | null =>
      cases y with
      | null => rfl
      | bool value =>
          cases value
          · exact absurd h hfalse
          · exact absurd h htrue
      | _ => exact hy.elim
  | bool value =>
      cases y with
      | null =>
          cases value
          · exact absurd h.symm hfalse
          · exact absurd h.symm htrue
      | bool other =>
          cases value <;> cases other
          · rfl
          · exact absurd h.symm hbool
          · exact absurd h hbool
          · rfl
      | _ => exact hy.elim
  | _ => exact hx.elim

theorem eq_of_shown_numbers (hx : x.IsNumber) (hy : y.IsNumber) (hcx : x.Canonical)
    (hcy : y.Canonical) (h : (shown x).toList = (shown y).toList) : x = y := by
  cases x with
  | int m =>
      rw [toList_shown_int] at h
      cases y with
      | int n =>
          rw [toList_shown_int] at h
          exact congrArg int (Decimal.integer_injective h)
      | float value =>
          rw [toList_shown_float] at h
          exact absurd h.symm (value.chars_ne_integer m)
      | _ => exact hy.elim
  | float value =>
      rw [toList_shown_float] at h
      cases y with
      | int n =>
          rw [toList_shown_int] at h
          exact absurd h (value.chars_ne_integer n)
      | float other =>
          rw [toList_shown_float] at h
          cases hcx with
          | float hvalue =>
              cases hcy with
              | float hother => exact congrArg float (Binary64.eq_of_chars_eq hvalue hother h)
      | _ => exact hy.elim
  | _ => exact hx.elim

/-- Words tell constants and numbers apart. -/
theorem eq_of_shown_words (hx : x.IsConstant ∨ x.IsNumber) (hy : y.IsConstant ∨ y.IsNumber)
    (hcx : x.Canonical) (hcy : y.Canonical) (h : (shown x).toList = (shown y).toList) : x = y := by
  rcases hx with hx | hx <;> rcases hy with hy | hy
  · exact eq_of_shown_constants hx hy h
  · exact absurd h (shown_constant_ne_number hx hy)
  · exact absurd h.symm (shown_constant_ne_number hy hx)
  · exact eq_of_shown_numbers hx hy hcx hcy h

/-! ## Tuples -/

/-- What follows an item of several, up to the closing bracket. -/
def afterItem : List String → List Char
  | [] => [')']
  | item :: items => ',' :: ' ' :: (item.toList ++ afterItem items)

/-- What follows the first item: an item alone keeps a comma. -/
def afterFirst : List String → List Char
  | [] => [',', ')']
  | items => afterItem items

/-- What follows the opening bracket. -/
def afterBracket : List String → List Char
  | [] => [')']
  | item :: items => item.toList ++ afterFirst items

theorem toList_intercalate_append (item : String) (items : List String) :
    (String.intercalate ", " (item :: items)).toList ++ [')'] = item.toList ++ afterItem items := by
  induction items generalizing item with
  | nil => rw [String.intercalate_singleton, afterItem]
  | cons next items ih =>
      rw [String.intercalate_cons_cons, String.toList_append, List.append_assoc, ih, afterItem,
        String.toList_append, List.append_assoc]
      rfl

theorem toList_shownTuple (items : List String) :
    (shownTuple items).toList = '(' :: afterBracket items := by
  cases items with
  | nil => rfl
  | cons item items =>
      cases items with
      | nil =>
          rw [shownTuple, String.toList_append, String.toList_append]
          rfl
      | cons next items =>
          have hinside := toList_intercalate_append item (next :: items)
          rw [shownTuple, String.toList_append, String.toList_append, List.append_assoc]
          · exact congrArg ('(' :: ·) hinside
          · intro other h
            cases h

theorem toList_shown_tuple (items : List NodeId) :
    (shown (tuple items)).toList = '(' :: afterBracket (shownAll items) :=
  toList_shownTuple (shownAll items)

/-- A name does not start with what follows a name. -/
theorem exists_head_shown (x : NodeId) :
    ∃ c rest, (shown x).toList = c :: rest ∧ c ≠ ',' ∧ c ≠ ')' := by
  have hword : x.IsConstant ∨ x.IsNumber →
      ∃ c rest, (shown x).toList = c :: rest ∧ c ≠ ',' ∧ c ≠ ')' := by
    intro h
    obtain ⟨hne, hbare⟩ := isWord_shown h
    obtain ⟨c, rest, hcons⟩ := List.exists_cons_of_ne_nil hne
    have hc := hbare c (hcons ▸ List.mem_cons_self)
    simp only [List.mem_cons, not_or] at hc
    exact ⟨c, rest, hcons, hc.1, hc.2.1⟩
  cases x with
  | null => exact hword (.inl trivial)
  | bool value => exact hword (.inl trivial)
  | int n => exact hword (.inr trivial)
  | float value => exact hword (.inr trivial)
  | str value =>
      have hmark := Text.isMark_quotationMark value.toList
      exact ⟨_, _, Text.toList_quoted value, hmark.ne (by decide), hmark.ne (by decide)⟩
  | tuple items => exact ⟨'(', _, toList_shown_tuple items, by decide, by decide⟩

/-- The name and what follows it are told by the characters of both. -/
def Tells (x : NodeId) : Prop :=
  ∀ {y : NodeId} {back rest : List Char}, y.Canonical → Ends back → Ends rest →
    (shown x).toList ++ back = (shown y).toList ++ rest → x = y ∧ back = rest

theorem Tells.eq_of_append {back rest : List Char} (hy : y.Tells) (hx : x.Canonical)
    (hback : Ends back) (hrest : Ends rest)
    (h : (shown x).toList ++ back = (shown y).toList ++ rest) : x = y ∧ back = rest := by
  obtain ⟨hname, hfollows⟩ := hy hx hrest hback h.symm
  exact ⟨hname.symm, hfollows.symm⟩

section Items

variable {xs ys : List NodeId} {back rest : List Char}

theorem ends_afterItem (items : List String) (back : List Char) :
    Ends (afterItem items ++ back) := by
  cases items with
  | nil =>
      rintro c ⟨⟩
      exact .inr rfl
  | cons item items =>
      rintro c ⟨⟩
      exact .inl rfl

theorem ends_afterFirst (items : List String) (back : List Char) :
    Ends (afterFirst items ++ back) := by
  cases items with
  | nil =>
      rintro c ⟨⟩
      exact .inl rfl
  | cons item items => exact ends_afterItem (item :: items) back

/-- The items of a tuple are told one after the other. -/
theorem eq_of_afterItem (hxs : ∀ x ∈ xs, x.Tells) (hys : ∀ y ∈ ys, y.Canonical)
    (h : afterItem (shownAll xs) ++ back = afterItem (shownAll ys) ++ rest) :
    xs = ys ∧ back = rest := by
  induction xs generalizing ys with
  | nil =>
      cases ys with
      | nil => exact ⟨rfl, (List.cons.inj h).2⟩
      | cons y ys => exact absurd (List.cons.inj h).1 (by decide)
  | cons x xs ih =>
      cases ys with
      | nil => exact absurd (List.cons.inj h).1 (by decide)
      | cons y ys =>
          rw [List.forall_mem_cons] at hxs hys
          have hitems : (shown x).toList ++ afterItem (shownAll xs) ++ back =
              (shown y).toList ++ afterItem (shownAll ys) ++ rest :=
            (List.cons.inj (List.cons.inj h).2).2
          rw [List.append_assoc, List.append_assoc] at hitems
          obtain ⟨rfl, hmore⟩ := hxs.1 hys.1 (ends_afterItem _ back) (ends_afterItem _ rest) hitems
          obtain ⟨rfl, hback⟩ := ih hxs.2 hys.2 hmore
          exact ⟨rfl, hback⟩

theorem eq_of_afterFirst (hxs : ∀ x ∈ xs, x.Tells) (hys : ∀ y ∈ ys, y.Canonical)
    (h : afterFirst (shownAll xs) ++ back = afterFirst (shownAll ys) ++ rest) :
    xs = ys ∧ back = rest := by
  cases xs with
  | nil =>
      cases ys with
      | nil => exact ⟨rfl, (List.cons.inj (List.cons.inj h).2).2⟩
      | cons y ys => exact absurd (List.cons.inj (List.cons.inj h).2).1 (by decide)
  | cons x xs =>
      cases ys with
      | nil => exact absurd (List.cons.inj (List.cons.inj h).2).1 (by decide)
      | cons y ys => exact eq_of_afterItem hxs hys h

theorem eq_of_afterBracket (hxs : ∀ x ∈ xs, x.Tells) (hys : ∀ y ∈ ys, y.Canonical)
    (h : afterBracket (shownAll xs) ++ back = afterBracket (shownAll ys) ++ rest) :
    xs = ys ∧ back = rest := by
  have hclosed : ∀ (y : NodeId) (ys : List NodeId) (back rest : List Char),
      afterBracket (shownAll []) ++ back ≠ afterBracket (shownAll (y :: ys)) ++ rest := by
    intro y ys back rest heq
    obtain ⟨c, others, hhead, -, hne⟩ := exists_head_shown y
    rw [shownAll, shownAll, afterBracket, afterBracket, hhead] at heq
    exact hne (List.cons.inj heq).1.symm
  cases xs with
  | nil =>
      cases ys with
      | nil => exact ⟨rfl, (List.cons.inj h).2⟩
      | cons y ys => exact absurd h (hclosed y ys back rest)
  | cons x xs =>
      cases ys with
      | nil => exact absurd h.symm (hclosed x xs rest back)
      | cons y ys =>
          rw [List.forall_mem_cons] at hxs hys
          rw [shownAll, shownAll, afterBracket, afterBracket, List.append_assoc,
            List.append_assoc] at h
          obtain ⟨rfl, hmore⟩ := hxs.1 hys.1 (ends_afterFirst _ back) (ends_afterFirst _ rest) h
          obtain ⟨rfl, hback⟩ := eq_of_afterFirst hxs.2 hys.2 hmore
          exact ⟨rfl, hback⟩

end Items

/-! ## All names -/

/-- The first character tells words, strings and tuples apart. -/
inductive Form : NodeId → Prop
  | word {x : NodeId} (h : x.IsConstant ∨ x.IsNumber) : Form x
  | str (value : String) : Form (str value)
  | tuple (items : List NodeId) : Form (tuple items)

theorem form (x : NodeId) : x.Form := by
  cases x with
  | null => exact .word (.inl trivial)
  | bool value => exact .word (.inl trivial)
  | int n => exact .word (.inr trivial)
  | float value => exact .word (.inr trivial)
  | str value => exact .str value
  | tuple items => exact .tuple items

/-- A word does not start like a string or a tuple. -/
theorem tells_word (hword : x.IsConstant ∨ x.IsNumber) (hx : x.Canonical) : x.Tells := by
  intro y back rest hy hback hrest h
  have hshown := isWord_shown hword
  have hhead : ∀ {c : Char} {cs : List Char}, c ∈ ['(', '\'', '"'] →
      (shown x).toList ++ back ≠ c :: cs := by
    intro c cs hc heq
    obtain ⟨first, others, hcons⟩ := List.exists_cons_of_ne_nil hshown.ne_nil
    have hbare := hshown.bare first (hcons ▸ List.mem_cons_self)
    rw [hcons] at heq
    rw [(List.cons.inj heq).1] at hbare
    exact hbare (List.mem_append_right [',', ')'] hc)
  cases y.form with
  | word hword' =>
      obtain ⟨hequal, hback'⟩ := eq_of_word_append hshown (isWord_shown hword') hback hrest h
      exact ⟨eq_of_shown_words hword hword' hx hy hequal, hback'⟩
  | str value =>
      rw [shown, Text.toList_quoted] at h
      have hmark := Text.isMark_quotationMark value.toList
      exact absurd h (hhead (List.mem_cons_of_mem '(' hmark.mem))
  | tuple items =>
      rw [toList_shown_tuple] at h
      exact absurd h (hhead (by decide))

/-- A mark starts a string and nothing else. -/
theorem tells_str (value : String) : (str value).Tells := by
  intro y back rest hy hback hrest h
  cases y.form with
  | word hword =>
      exact Tells.eq_of_append (tells_word hword hy) (.str value) hback hrest h
  | str other =>
      obtain ⟨rfl, hback'⟩ := Text.eq_of_quoted_append h
      exact ⟨rfl, hback'⟩
  | tuple items =>
      rw [shown, Text.toList_quoted, toList_shown_tuple] at h
      have hmark := Text.isMark_quotationMark value.toList
      exact absurd (List.cons.inj h).1 (hmark.ne (by decide))

theorem tells_tuple {items : List NodeId} (hcanonical : (tuple items).Canonical)
    (hitems : ∀ item ∈ items, item.Tells) : (tuple items).Tells := by
  intro y back rest hy hback hrest h
  cases y.form with
  | word hword =>
      exact Tells.eq_of_append (tells_word hword hy) hcanonical hback hrest h
  | str value =>
      exact Tells.eq_of_append (tells_str value) hcanonical hback hrest h
  | tuple others =>
      cases hy with
      | tuple hothers =>
          rw [toList_shown_tuple, toList_shown_tuple] at h
          obtain ⟨rfl, hback'⟩ := eq_of_afterBracket hitems hothers (List.cons.inj h).2
          exact ⟨rfl, hback'⟩

theorem tells_of_canonical (h : x.Canonical) : x.Tells := by
  induction h with
  | null => exact tells_word (x := null) (.inl trivial) .null
  | bool value => exact tells_word (x := bool value) (.inl trivial) (.bool value)
  | int value => exact tells_word (x := int value) (.inr trivial) (.int value)
  | float h => exact tells_word (x := float _) (.inr trivial) (.float h)
  | str value => exact tells_str value
  | tuple h ih => exact tells_tuple (.tuple h) ih

theorem eq_of_shown_eq (hx : x.Canonical) (hy : y.Canonical) (h : shown x = shown y) : x = y := by
  have hnil : Ends [] := by
    intro c hc
    cases hc
  exact (tells_of_canonical hx hy hnil hnil (by rw [h])).1

/-- Two names have the same text only if one of them is a string: that of the text of
the other one. -/
theorem eq_of_text_eq (hx : x.Canonical) (hy : y.Canonical) (h : x.text = y.text) :
    x = y ∨ x = str y.text ∨ y = str x.text := by
  have hshown : ∀ {x : NodeId}, (∀ value, x ≠ str value) → x.text = shown x := by
    intro x hne
    cases x with
    | str value => exact absurd rfl (hne value)
    | _ => rfl
  by_cases hstr : ∃ value, x = str value
  · obtain ⟨value, rfl⟩ := hstr
    exact .inr (.inl (congrArg str h))
  · by_cases hstr' : ∃ value, y = str value
    · obtain ⟨value, rfl⟩ := hstr'
      exact .inr (.inr (congrArg str h.symm))
    · rw [not_exists] at hstr hstr'
      rw [hshown hstr, hshown hstr'] at h
      exact .inl (eq_of_shown_eq hx hy h)

end NetworkTopology.NodeId
