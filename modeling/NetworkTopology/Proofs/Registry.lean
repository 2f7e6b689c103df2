import Mathlib.Data.List.Basic
import Mathlib.Data.List.Induction
import NetworkTopology.Registry

/-!
# Registrations and announcements

Whatever is done to a registry comes down to edits, each of which registers or removes a
listener; listeners that are called contribute edits of their own.  A registration
*stands* as long as nothing equal to its listener is removed, unless an equal listener
stood already.  A registry holds the listeners whose registrations stand
(`reflects_applyAll`), and an announcement calls those that it held when the
announcement began (`notify_eq`).
-/

namespace NetworkTopology.Registry

variable {L : Type} {same : L → L → Bool}

/-! ## Edits -/

/-- A change of a registry. -/
inductive Edit (L : Type) where
  | register (listener : L)
  | unregister (listener : L)
  deriving DecidableEq, Repr

/-- The listeners that are held after an edit. -/
def Edit.apply (same : L → L → Bool) (held : List L) : Edit L → List L
  | register listener => add same held listener
  | unregister listener => remove same held listener

/-- The listeners that are held after edits in order. -/
def applyAll (same : L → L → Bool) (edits : List (Edit L)) (held : List L) : List L :=
  edits.foldl (Edit.apply same) held

/-- Between two places something equal to a listener is removed. -/
def Released (same : L → L → Bool) (edits : List (Edit L)) (earlier later : Nat)
    (listener : L) : Prop :=
  ∃ place other, earlier < place ∧ place < later ∧
    edits[place]? = some (.unregister other) ∧ same other listener = true

/-- The registration at a place stands: nothing equal to its listener is removed later,
and whenever an equal listener was registered before, one was removed in between. -/
structure Stands (same : L → L → Bool) (edits : List (Edit L)) (place : Nat)
    (listener : L) : Prop where
  registered : edits[place]? = some (.register listener)
  kept : ∀ later other, place < later → edits[later]? = some (.unregister other) →
    same other listener = false
  first : ∀ earlier other, earlier < place → edits[earlier]? = some (.register other) →
    same other listener = true → Released same edits earlier place listener

/-- Held are the listeners whose registrations stand, in the order of registration. -/
def Reflects (same : L → L → Bool) (edits : List (Edit L)) (held : List L) : Prop :=
  ∃ standing : List (Nat × L), standing.Pairwise (fun x y => x.1 < y.1) ∧
    (∀ place listener, (place, listener) ∈ standing ↔ Stands same edits place listener) ∧
    standing.map Prod.snd = held

theorem getElem?_concat_eq_some_iff {α : Type} {items : List α} {new item : α} {place : Nat} :
    (items ++ [new])[place]? = some item ↔
      items[place]? = some item ∨ (place = items.length ∧ item = new) := by
  rcases Nat.lt_trichotomy place items.length with hlt | rfl | hgt
  · rw [List.getElem?_append_left hlt]
    constructor
    · exact Or.inl
    · rintro (h | ⟨rfl, -⟩)
      · exact h
      · exact absurd hlt (Nat.lt_irrefl _)
  · simp [eq_comm]
  · rw [List.getElem?_eq_none (by rwa [List.length_append, List.length_singleton]),
      List.getElem?_eq_none (Nat.le_of_lt hgt)]
    constructor
    · intro h
      cases h
    · rintro (h | ⟨rfl, -⟩)
      · cases h
      · exact absurd hgt (Nat.lt_irrefl _)

theorem lt_length_of_getElem? {α : Type} {items : List α} {item : α} {place : Nat}
    (h : items[place]? = some item) : place < items.length :=
  (List.getElem?_eq_some_iff.mp h).1

/-! ## Registrations that stand -/

theorem released_concat_iff {edits : List (Edit L)} {edit : Edit L} {earlier later : Nat}
    {listener : L} (hlater : later ≤ edits.length) :
    Released same (edits ++ [edit]) earlier later listener ↔
      Released same edits earlier later listener := by
  constructor
  · rintro ⟨place, other, hearlier, hplace, hother, hsame⟩
    rcases getElem?_concat_eq_some_iff.mp hother with hother | ⟨rfl, -⟩
    · exact ⟨place, other, hearlier, hplace, hother, hsame⟩
    · omega
  · rintro ⟨place, other, hearlier, hplace, hother, hsame⟩
    exact ⟨place, other, hearlier, hplace,
      getElem?_concat_eq_some_iff.mpr (.inl hother), hsame⟩

/-- An edit ends the registrations of what it removes, and leaves those of all else as
they are. -/
theorem stands_concat_of_lt {edits : List (Edit L)} {edit : Edit L} {place : Nat}
    {listener : L} (hplace : place < edits.length) :
    Stands same (edits ++ [edit]) place listener ↔
      Stands same edits place listener ∧
        ∀ other, edit = .unregister other → same other listener = false := by
  constructor
  · intro h
    refine ⟨⟨?_, ?_, ?_⟩, ?_⟩
    · have hregistered := h.registered
      rwa [List.getElem?_append_left hplace] at hregistered
    · intro later other hlater hother
      exact h.kept later other hlater (getElem?_concat_eq_some_iff.mpr (.inl hother))
    · intro earlier other hearlier hother hsame
      have hreleased := h.first earlier other hearlier
        (getElem?_concat_eq_some_iff.mpr (.inl hother)) hsame
      exact (released_concat_iff (Nat.le_of_lt hplace)).mp hreleased
    · rintro other rfl
      exact h.kept edits.length other hplace (getElem?_concat_eq_some_iff.mpr (.inr ⟨rfl, rfl⟩))
  · rintro ⟨h, hedit⟩
    refine ⟨?_, ?_, ?_⟩
    · rw [List.getElem?_append_left hplace]
      exact h.registered
    · intro later other hlater hother
      rcases getElem?_concat_eq_some_iff.mp hother with hother | ⟨-, heq⟩
      · exact h.kept later other hlater hother
      · exact hedit other heq.symm
    · intro earlier other hearlier hother hsame
      rw [List.getElem?_append_left (Nat.lt_trans hearlier hplace)] at hother
      have hreleased := h.first earlier other hearlier hother hsame
      exact (released_concat_iff (Nat.le_of_lt hplace)).mpr hreleased

/-- A listener is registered anew exactly if whatever equal to it was registered has been
removed. -/
theorem stands_concat_length {edits : List (Edit L)} {edit : Edit L} {listener : L} :
    Stands same (edits ++ [edit]) edits.length listener ↔
      edit = .register listener ∧
        ∀ earlier other, edits[earlier]? = some (.register other) →
          same other listener = true → Released same edits earlier edits.length listener := by
  constructor
  · intro h
    refine ⟨?_, ?_⟩
    · rcases getElem?_concat_eq_some_iff.mp h.registered with hmem | ⟨-, heq⟩
      · exact absurd (lt_length_of_getElem? hmem) (Nat.lt_irrefl _)
      · exact heq.symm
    · intro earlier other hother hsame
      have hreleased := h.first earlier other (lt_length_of_getElem? hother)
        (getElem?_concat_eq_some_iff.mpr (.inl hother)) hsame
      exact (released_concat_iff (Nat.le_refl _)).mp hreleased
  · rintro ⟨rfl, hfirst⟩
    refine ⟨getElem?_concat_eq_some_iff.mpr (.inr ⟨rfl, rfl⟩), ?_, ?_⟩
    · intro later other hlater hother
      have hlt := lt_length_of_getElem? hother
      rw [List.length_append, List.length_singleton] at hlt
      omega
    · intro earlier other hearlier hother hsame
      rw [List.getElem?_append_left hearlier] at hother
      exact (released_concat_iff (Nat.le_refl _)).mpr (hfirst earlier other hother hsame)

theorem Stands.lt_length {edits : List (Edit L)} {place : Nat} {listener : L}
    (h : Stands same edits place listener) : place < edits.length :=
  lt_length_of_getElem? h.registered

theorem Stands.lt_or_eq {edits : List (Edit L)} {edit : Edit L} {place : Nat} {listener : L}
    (h : Stands same (edits ++ [edit]) place listener) :
    place < edits.length ∨ place = edits.length := by
  have hlt := h.lt_length
  rw [List.length_append, List.length_singleton] at hlt
  exact Nat.lt_succ_iff_lt_or_eq.mp hlt

/-- Of two registrations that stand, the later one is not of a listener equal to that of
the earlier one. -/
theorem Stands.not_same (hsame : Equivalence fun x y => same x y = true)
    {edits : List (Edit L)} {place place' : Nat} {listener listener' : L}
    (h : Stands same edits place listener) (h' : Stands same edits place' listener')
    (hlt : place < place') : same listener listener' = false := by
  by_contra hne
  have heq : same listener listener' = true := eq_true_of_ne_false hne
  obtain ⟨between, other, hbetween, -, hother, hsameOther⟩ :=
    h'.first place listener hlt h.registered heq
  have hkept := h.kept between other hbetween hother
  rw [hsame.trans hsameOther (hsame.symm heq)] at hkept
  cases hkept

/-- Where a listener was registered and nothing equal was removed since, the registration
of an equal one stands: the first after the last removal. -/
theorem exists_stands (hsame : Equivalence fun x y => same x y = true)
    {edits : List (Edit L)} {listener : L} (place : Nat) {registered : L}
    (hplace : edits[place]? = some (.register registered))
    (hequal : same registered listener = true)
    (hkept : ∀ later other, place < later → edits[later]? = some (.unregister other) →
      same other listener = false) :
    ∃ place standing, Stands same edits place standing ∧ same standing listener = true := by
  induction place using Nat.strongRecOn generalizing registered with
  | ind place ih =>
      have hnot : ∀ {other}, same other listener = false → same other registered = false := by
        intro other hother
        by_contra hne
        have htrans := hsame.trans (eq_true_of_ne_false hne) hequal
        rw [hother] at htrans
        cases htrans
      by_cases hfirst : ∀ earlier other, earlier < place →
          edits[earlier]? = some (.register other) → same other registered = true →
            Released same edits earlier place registered
      · refine ⟨place, registered, ⟨hplace, ?_, hfirst⟩, hequal⟩
        intro later other hlater hother
        exact hnot (hkept later other hlater hother)
      · push Not at hfirst
        obtain ⟨earlier, other, hearlier, hother, heq, hreleased⟩ := hfirst
        apply ih earlier hearlier hother (hsame.trans heq hequal)
        intro later removed hlater hremoved
        rcases Nat.lt_trichotomy later place with hlt | rfl | hgt
        · by_contra hne
          refine hreleased ⟨later, removed, hlater, hlt, hremoved, ?_⟩
          exact hsame.trans (eq_true_of_ne_false hne) (hsame.symm hequal)
        · rw [hplace] at hremoved
          cases hremoved
        · exact hkept later removed hgt hremoved

/-! ## What is held -/

theorem contains_iff {held : List L} {listener : L} :
    contains same held listener = true ↔ ∃ other ∈ held, same other listener = true := by
  rw [contains, List.any_eq_true]

theorem Reflects.mem_iff {edits : List (Edit L)} {held : List L} (h : Reflects same edits held)
    {listener : L} : listener ∈ held ↔ ∃ place, Stands same edits place listener := by
  obtain ⟨standing, -, hmem, rfl⟩ := h
  rw [List.mem_map]
  constructor
  · rintro ⟨⟨place, other⟩, hother, rfl⟩
    exact ⟨place, (hmem place other).mp hother⟩
  · rintro ⟨place, hstands⟩
    exact ⟨(place, listener), (hmem place listener).mpr hstands, rfl⟩

theorem Reflects.pairwise (hsame : Equivalence fun x y => same x y = true)
    {edits : List (Edit L)} {held : List L} (h : Reflects same edits held) :
    held.Pairwise fun x y => same x y = false := by
  obtain ⟨standing, hsorted, hmem, rfl⟩ := h
  rw [List.pairwise_map]
  refine hsorted.imp_of_mem ?_
  rintro ⟨place, listener⟩ ⟨place', listener'⟩ hx hy hlt
  exact ((hmem place listener).mp hx).not_same hsame ((hmem place' listener').mp hy) hlt

/-- An equal listener is held exactly if not everything equal that was registered has
been removed. -/
theorem Reflects.contains_eq_false_iff (hsame : Equivalence fun x y => same x y = true)
    {edits : List (Edit L)} {held : List L} (h : Reflects same edits held) (listener : L) :
    contains same held listener = false ↔
      ∀ earlier other, edits[earlier]? = some (.register other) →
        same other listener = true → Released same edits earlier edits.length listener := by
  constructor
  · intro habsent earlier other hother hequal
    by_contra hreleased
    obtain ⟨place, standing, hstands, heq⟩ := exists_stands hsame earlier hother hequal (by
      intro later removed hlater hremoved
      by_contra hne
      exact hreleased ⟨later, removed, hlater, lt_length_of_getElem? hremoved, hremoved,
        eq_true_of_ne_false hne⟩)
    have hcontains : contains same held listener = true :=
      contains_iff.mpr ⟨standing, h.mem_iff.mpr ⟨place, hstands⟩, heq⟩
    rw [habsent] at hcontains
    cases hcontains
  · intro hall
    by_contra hne
    obtain ⟨other, hother, hequal⟩ := contains_iff.mp (eq_true_of_ne_false hne)
    obtain ⟨place, hstands⟩ := h.mem_iff.mp hother
    obtain ⟨between, removed, hlt, -, hremoved, heq⟩ :=
      hall place other hstands.registered hequal
    have hkept := hstands.kept between removed hlt hremoved
    rw [hsame.trans heq (hsame.symm hequal)] at hkept
    cases hkept

theorem Reflects.unregister {edits : List (Edit L)} {held : List L}
    (hsame : Equivalence fun x y => same x y = true) (h : Reflects same edits held)
    (listener : L) :
    Reflects same (edits ++ [.unregister listener]) (remove same held listener) := by
  obtain ⟨standing, hsorted, hmem, rfl⟩ := h
  have hcomm : ∀ other, same other listener = false ↔ same listener other = false := by
    intro other
    rw [Bool.eq_false_iff, Bool.eq_false_iff]
    exact not_congr ⟨hsame.symm, hsame.symm⟩
  refine ⟨standing.filter fun entry => !same entry.2 listener, hsorted.filter _, ?_, ?_⟩
  · intro place other
    rw [List.mem_filter, hmem, Bool.not_eq_true', hcomm]
    constructor
    · rintro ⟨hstands, hne⟩
      refine (stands_concat_of_lt hstands.lt_length).mpr ⟨hstands, ?_⟩
      rintro removed heq
      cases heq
      exact hne
    · intro hstands
      rcases hstands.lt_or_eq with hlt | rfl
      · obtain ⟨hold, hne⟩ := (stands_concat_of_lt hlt).mp hstands
        exact ⟨hold, hne listener rfl⟩
      · obtain ⟨heq, -⟩ := stands_concat_length.mp hstands
        cases heq
  · rw [remove, List.filter_map]
    rfl

theorem Reflects.register {edits : List (Edit L)} {held : List L}
    (hsame : Equivalence fun x y => same x y = true) (h : Reflects same edits held)
    (listener : L) :
    Reflects same (edits ++ [.register listener]) (add same held listener) := by
  have hcontains := h.contains_eq_false_iff hsame listener
  obtain ⟨standing, hsorted, hmem, hheld⟩ := h
  have hold : ∀ {place other}, place < edits.length →
      (Stands same (edits ++ [.register listener]) place other ↔
        (place, other) ∈ standing) := by
    intro place other hlt
    rw [stands_concat_of_lt hlt, hmem]
    constructor
    · exact And.left
    · intro hstands
      refine ⟨hstands, ?_⟩
      intro removed heq
      cases heq
  by_cases habsent : contains same held listener = false
  · refine ⟨standing ++ [(edits.length, listener)], ?_, ?_, ?_⟩
    · rw [List.pairwise_append]
      refine ⟨hsorted, List.pairwise_singleton _ _, ?_⟩
      rintro ⟨place, other⟩ hother new hnew
      rw [List.mem_singleton.mp hnew]
      exact ((hmem place other).mp hother).lt_length
    · intro place other
      rw [List.mem_append, List.mem_singleton]
      constructor
      · rintro (hother | hnew)
        · exact (hold ((hmem place other).mp hother).lt_length).mpr hother
        · cases hnew
          exact stands_concat_length.mpr ⟨rfl, hcontains.mp habsent⟩
      · intro hstands
        rcases hstands.lt_or_eq with hlt | rfl
        · exact .inl ((hold hlt).mp hstands)
        · obtain ⟨heq, -⟩ := stands_concat_length.mp hstands
          cases heq
          exact .inr rfl
    · rw [List.map_append, hheld, add, habsent]
      rfl
  · refine ⟨standing, hsorted, ?_, ?_⟩
    · intro place other
      constructor
      · intro hother
        exact (hold ((hmem place other).mp hother).lt_length).mpr hother
      · intro hstands
        rcases hstands.lt_or_eq with hlt | rfl
        · exact (hold hlt).mp hstands
        · obtain ⟨heq, hfirst⟩ := stands_concat_length.mp hstands
          cases heq
          exact absurd (hcontains.mpr hfirst) habsent
    · rw [hheld, add, if_pos (eq_true_of_ne_false habsent)]

/-- Whatever is registered and removed, those are held whose registrations stand. -/
theorem reflects_applyAll (hsame : Equivalence fun x y => same x y = true)
    (edits : List (Edit L)) : Reflects same edits (applyAll same edits []) := by
  induction edits using List.reverseRecOn with
  | nil =>
      refine ⟨[], List.Pairwise.nil, ?_, rfl⟩
      intro place listener
      constructor
      · intro h
        cases h
      · intro h
        exact absurd h.lt_length (Nat.not_lt_zero _)
  | append_singleton edits edit ih =>
      rw [applyAll, List.foldl_append]
      cases edit with
      | register listener => exact ih.register hsame listener
      | unregister listener => exact ih.unregister hsame listener

/-! ## Announcements -/

/-- The edits of a listener that is called: it removes, and then it registers. -/
def Reaction.edits (reaction : Reaction L) : List (Edit L) :=
  reaction.removes.map .unregister ++ reaction.adds.map .register

theorem react_eq_applyAll (reaction : Reaction L) (held : List L) :
    react same reaction held = applyAll same reaction.edits held := by
  rw [applyAll, Reaction.edits, List.foldl_append, List.foldl_map, List.foldl_map]
  rfl

theorem applyAll_append (front back : List (Edit L)) (held : List L) :
    applyAll same (front ++ back) held = applyAll same back (applyAll same front held) :=
  List.foldl_append

/-- An announcement calls, in order, those that are held when it begins, counts those
that fail, and leaves behind what all their reactions come to. -/
theorem notify_eq (reactions : L → Reaction L) (roll : Roll L) :
    notify same reactions roll =
      ({ listeners := roll.listeners.foldl
            (fun held listener => react same (reactions listener) held) roll.listeners
         calls := roll.calls ++ roll.listeners
         failed :=
          roll.failed ++ roll.listeners.filter fun listener => (reactions listener).fails },
        roll.listeners.countP fun listener => (reactions listener).fails) := by
  -- What is called is fixed; the listeners held change from call to call.
  suffices h : ∀ (called : List L) (roll : Roll L),
      announce
          (fun listener roll =>
            ({ roll with
                listeners := react same (reactions listener) roll.listeners
                calls := roll.calls ++ [listener] },
              (reactions listener).fails))
          (fun listener roll => { roll with failed := roll.failed ++ [listener] }) called roll =
        ({ listeners := called.foldl
              (fun held listener => react same (reactions listener) held) roll.listeners
           calls := roll.calls ++ called
           failed := roll.failed ++ called.filter fun listener => (reactions listener).fails },
          called.countP fun listener => (reactions listener).fails) from
    h roll.listeners roll
  intro called
  induction called with
  | nil =>
      intro roll
      simp [announce]
  | cons listener called ih =>
      intro roll
      by_cases hfails : (reactions listener).fails = true
      · simp [announce, hfails, ih]
      · simp [announce, hfails, ih]

theorem foldl_react (reactions : L → Reaction L) (called held : List L) :
    called.foldl (fun held listener => react same (reactions listener) held) held =
      applyAll same (called.flatMap fun listener => (reactions listener).edits) held := by
  induction called generalizing held with
  | nil => rfl
  | cons listener called ih =>
      rw [List.foldl_cons, ih, List.flatMap_cons, applyAll_append, react_eq_applyAll]

/-! ## Runs -/

/-- A call on a registry.  What a listener does may be different at every
announcement. -/
inductive Call (L : Type) where
  | add (listener : L)
  | remove (listener : L)
  | notify (reactions : L → Reaction L)

def Call.perform (same : L → L → Bool) (roll : Roll L) : Call L → Roll L
  | add listener => { roll with listeners := Registry.add same roll.listeners listener }
  | remove listener => { roll with listeners := Registry.remove same roll.listeners listener }
  | notify reactions => (Registry.notify same reactions roll).1

/-- A registry after calls in order, to begin with nobody. -/
def run (same : L → L → Bool) (calls : List (Call L)) : Roll L :=
  calls.foldl (Call.perform same) {}

/-- The edits that a call makes, those of the listeners it calls included. -/
def Call.edits (held : List L) : Call L → List (Edit L)
  | add listener => [.register listener]
  | remove listener => [.unregister listener]
  | notify reactions => held.flatMap fun listener => (reactions listener).edits

def history (same : L → L → Bool) : List (Call L) → List L → List (Edit L)
  | [], _ => []
  | call :: calls, held =>
      call.edits held ++ history same calls (applyAll same (call.edits held) held)

theorem listeners_perform (roll : Roll L) (call : Call L) :
    (call.perform same roll).listeners =
      applyAll same (call.edits roll.listeners) roll.listeners := by
  cases call with
  | add listener => rfl
  | remove listener => rfl
  | notify reactions =>
      rw [Call.perform, notify_eq]
      exact foldl_react reactions roll.listeners roll.listeners

theorem listeners_run (calls : List (Call L)) :
    (run same calls).listeners = applyAll same (history same calls []) [] := by
  suffices h : ∀ roll : Roll L, (calls.foldl (Call.perform same) roll).listeners =
      applyAll same (history same calls roll.listeners) roll.listeners from h {}
  induction calls with
  | nil =>
      intro roll
      rfl
  | cons call calls ih =>
      intro roll
      rw [List.foldl_cons, ih, history, applyAll_append, listeners_perform]

/-- The listeners that an announcement calls. -/
def called (same : L → L → Bool) (reactions : L → Reaction L) (roll : Roll L) : List L :=
  (notify same reactions roll).1.calls.drop roll.calls.length

theorem called_eq (reactions : L → Reaction L) (roll : Roll L) :
    called same reactions roll = roll.listeners := by
  rw [called, notify_eq]
  exact List.drop_left

/-- A registry never holds two equal listeners, not even while it announces something: it
holds those whose registrations stand.  Whatever its listeners do and whichever of them
fail, an announcement calls each listener once that was held when it began, and no other;
who came meanwhile has to wait for a later one. -/
theorem announcements_follow_registration (hsame : Equivalence fun x y => same x y = true)
    (calls : List (Call L)) :
    (∀ done, done <+: history same calls [] →
        (applyAll same done []).Pairwise fun x y => same x y = false) ∧
      (run same calls).listeners = applyAll same (history same calls []) [] ∧
      Reflects same (history same calls []) (run same calls).listeners ∧
      ∀ (reactions : L → Reaction L) (roll : Roll L), roll = run same calls →
        (notify same reactions roll).1.calls = roll.calls ++ called same reactions roll ∧
        called same reactions roll = roll.listeners ∧
        (called same reactions roll).Nodup ∧
        (∀ newcomer, newcomer ∈ (notify same reactions roll).1.listeners →
          newcomer ∉ roll.listeners →
            newcomer ∉ called same reactions roll ∧
            ∀ more reactions' roll', roll' = run same (calls ++ .notify reactions :: more) →
              newcomer ∈ roll'.listeners → newcomer ∈ called same reactions' roll') ∧
        (notify same reactions roll).2 =
          (called same reactions roll).countP (fun listener => (reactions listener).fails) ∧
        (notify same reactions roll).1.listeners =
          applyAll same
            ((called same reactions roll).flatMap fun listener =>
              (reactions listener).removes.map .unregister ++
                (reactions listener).adds.map .register)
            roll.listeners := by
  have hreflects : Reflects same (history same calls []) (run same calls).listeners := by
    rw [listeners_run]
    exact reflects_applyAll hsame _
  refine ⟨?_, listeners_run calls, hreflects, ?_⟩
  · intro done _
    exact (reflects_applyAll hsame done).pairwise hsame
  · rintro reactions roll rfl
    rw [called_eq, notify_eq]
    refine ⟨rfl, rfl, ?_, ?_, rfl, ?_⟩
    · refine (hreflects.pairwise hsame).imp ?_
      rintro x y hne rfl
      rw [hsame.refl x] at hne
      cases hne
    · intro newcomer _ hnew
      refine ⟨hnew, ?_⟩
      rintro more reactions' roll' - hheld
      rw [called_eq]
      exact hheld
    · exact foldl_react reactions _ _

/-- Numbers that end in the same digit are equal listeners. -/
def tagged (x y : Nat) : Bool :=
  x % 10 == y % 10

/-- The first removes the second, puts another in its place and brings a third; the second
replaces the first, then asks for the first again, which is refused, and fails. -/
def unrest : Nat → Reaction Nat
  | 1 => { removes := [2], adds := [12, 3] }
  | 2 => { removes := [1], adds := [11, 1], fails := true }
  | _ => {}

/-- The second is called although the first removed it, and nobody who comes meanwhile is. -/
theorem newcomers_called_next :
    let before := run tagged [.add 1, .add 21, .add 2]
    let after := run tagged ([.add 1, .add 21, .add 2] ++ [.notify unrest])
    before.listeners = [1, 2] ∧ called tagged unrest before = [1, 2] ∧
      (notify tagged unrest before).2 = 1 ∧ after.listeners = [12, 3, 11] ∧
      3 ∉ called tagged unrest before ∧ 3 ∈ called tagged (fun _ => {}) after ∧
      Reflects tagged (history tagged [.add 1, .add 21, .add 2, .notify unrest] [])
        [12, 3, 11] := by
  have hequivalence : Equivalence fun x y => tagged x y = true := by
    refine ⟨?_, ?_, ?_⟩
    · intro x
      exact beq_self_eq_true _
    · intro x y h
      exact beq_iff_eq.mpr (beq_iff_eq.mp h).symm
    · intro x y z h h'
      exact beq_iff_eq.mpr ((beq_iff_eq.mp h).trans (beq_iff_eq.mp h'))
  obtain ⟨-, -, -, hbefore⟩ :=
    announcements_follow_registration hequivalence [.add 1, .add 21, .add 2]
  obtain ⟨-, -, hreflects, -⟩ :=
    announcements_follow_registration hequivalence [.add 1, .add 21, .add 2, .notify unrest]
  obtain ⟨-, hcalled, -, hnewcomer, hcount, -⟩ := hbefore unrest _ rfl
  obtain ⟨hwaits, hnext⟩ := hnewcomer 3 (by decide) (by decide)
  refine ⟨by decide, ?_, ?_, by decide, hwaits, hnext [] (fun _ => {}) _ rfl (by decide), ?_⟩
  · rw [hcalled]
    decide
  · rw [hcount]
    decide
  · exact hreflects

end NetworkTopology.Registry
