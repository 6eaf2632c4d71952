import Mathlib.Data.List.Basic

/-!
# The item of a list that decides

Two readings of a list recur. A list is refused because of its first item that breaks a law. And a
list of items that give values to keys is read with the last word: an item gives a key a value or
is silent about it, and of several items the last one that is not silent holds. `FirstBreach` and
`LastWord` state both by cutting the list at the deciding item. An item decides exactly if there is
one to decide. A first word is what `List.findSome?` finds; two laws of it are here.
-/
namespace Fleet

section FirstBreach
variable {ι : Type}

/-- The first of the items that breaks the law. -/
def FirstBreach (law : ι → Prop) (items : List ι) (item : ι) : Prop :=
  ∃ before after, items = before ++ item :: after ∧ (∀ earlier ∈ before, law earlier) ∧ ¬law item

variable {law : ι → Prop}

@[simp] theorem not_firstBreach_nil (item : ι) : ¬FirstBreach law [] item := by
  rintro ⟨before, after, h, -⟩
  simp at h

theorem FirstBreach.mem {items : List ι} {item : ι} (h : FirstBreach law items item) :
    item ∈ items := by
  obtain ⟨before, after, rfl, -, -⟩ := h
  simp

theorem firstBreach_cons_iff {first item : ι} {rest : List ι} :
    FirstBreach law (first :: rest) item ↔
      (¬law first ∧ first = item) ∨ (law first ∧ FirstBreach law rest item) := by
  constructor
  · rintro ⟨before, after, hItems, hBefore, hItem⟩
    cases before with
    | nil =>
      obtain ⟨rfl, rfl⟩ := List.cons.inj hItems
      exact .inl ⟨hItem, rfl⟩
    | cons earlier before =>
      obtain ⟨rfl, rfl⟩ := List.cons.inj hItems
      obtain ⟨hFirst, hBefore⟩ := List.forall_mem_cons.mp hBefore
      exact .inr ⟨hFirst, before, after, rfl, hBefore, hItem⟩
  · rintro (⟨hFirst, rfl⟩ | ⟨hFirst, before, after, rfl, hBefore, hItem⟩)
    · exact ⟨[], rest, rfl, by simp, hFirst⟩
    · exact ⟨first :: before, after, rfl, List.forall_mem_cons.mpr ⟨hFirst, hBefore⟩, hItem⟩

theorem exists_firstBreach_iff {items : List ι} :
    (∃ item, FirstBreach law items item) ↔ ∃ item ∈ items, ¬law item := by
  constructor
  · rintro ⟨item, before, after, rfl, -, hItem⟩
    exact ⟨item, by simp, hItem⟩
  · rintro ⟨item, hMem, hItem⟩
    induction items with
    | nil => cases hMem
    | cons first rest ih =>
      by_cases hFirst : law first
      · rcases List.mem_cons.mp hMem with rfl | hMem
        · exact absurd hFirst hItem
        · obtain ⟨other, hOther⟩ := ih hMem
          exact ⟨other, firstBreach_cons_iff.mpr (.inr ⟨hFirst, hOther⟩)⟩
      · exact ⟨first, firstBreach_cons_iff.mpr (.inl ⟨hFirst, rfl⟩)⟩

variable {κ : Type}

theorem firstBreach_map_iff {f : κ → ι} {items : List κ} {item : ι} :
    FirstBreach law (items.map f) item ↔
      ∃ origin, FirstBreach (law ∘ f) items origin ∧ f origin = item := by
  induction items with
  | nil => simp
  | cons first rest ih =>
    simp only [List.map_cons, firstBreach_cons_iff, ih, Function.comp_apply]
    constructor
    · rintro (⟨hFirst, rfl⟩ | ⟨hFirst, origin, hOrigin, rfl⟩)
      · exact ⟨first, .inl ⟨hFirst, rfl⟩, rfl⟩
      · exact ⟨origin, .inr ⟨hFirst, hOrigin⟩, rfl⟩
    · rintro ⟨origin, ⟨hFirst, rfl⟩ | ⟨hFirst, hOrigin⟩, rfl⟩
      · exact .inl ⟨hFirst, rfl⟩
      · exact .inr ⟨hFirst, origin, hOrigin, rfl⟩

end FirstBreach

section LastWord
variable {ι α : Type}

/-- The last item that gives anything about `key` gives `value`. -/
def LastWord (gives : ι → String → α → Prop) (items : List ι) (key : String) (value : α) : Prop :=
  ∃ before item after, items = before ++ item :: after ∧ gives item key value ∧
    ∀ later ∈ after, ∀ other, ¬gives later key other

def Silent (gives : ι → String → α → Prop) (items : List ι) (key : String) : Prop :=
  ∀ item ∈ items, ∀ value, ¬gives item key value

variable {gives : ι → String → α → Prop} {key : String} {value : α}

@[simp] theorem silent_nil : Silent gives [] key := by simp [Silent]

theorem silent_cons_iff {item : ι} {rest : List ι} :
    Silent gives (item :: rest) key ↔ (∀ value, ¬gives item key value) ∧ Silent gives rest key :=
  List.forall_mem_cons

@[simp] theorem not_lastWord_nil : ¬LastWord gives [] key value := by
  rintro ⟨before, item, after, h, -⟩
  simp at h

theorem lastWord_cons_iff {item : ι} {rest : List ι} :
    LastWord gives (item :: rest) key value ↔
      LastWord gives rest key value ∨ Silent gives rest key ∧ gives item key value := by
  constructor
  · rintro ⟨before, last, after, hItems, hGives, hAfter⟩
    cases before with
    | nil =>
      obtain ⟨rfl, rfl⟩ := List.cons.inj hItems
      exact .inr ⟨hAfter, hGives⟩
    | cons first before =>
      obtain ⟨-, rfl⟩ := List.cons.inj hItems
      exact .inl ⟨before, last, after, rfl, hGives, hAfter⟩
  · rintro (⟨before, last, after, rfl, hGives, hAfter⟩ | ⟨hSilent, hGives⟩)
    · exact ⟨item :: before, last, after, rfl, hGives, hAfter⟩
    · exact ⟨[], item, rest, rfl, hGives, hSilent⟩

theorem LastWord.exists_mem {items : List ι} (h : LastWord gives items key value) :
    ∃ item ∈ items, gives item key value := by
  obtain ⟨before, item, after, rfl, hGives, -⟩ := h
  exact ⟨item, by simp, hGives⟩

/-- A list is silent about a key or has a last word on it. -/
theorem silent_or_lastWord (gives : ι → String → α → Prop) (items : List ι) (key : String) :
    Silent gives items key ∨ ∃ value, LastWord gives items key value := by
  induction items with
  | nil => exact .inl silent_nil
  | cons item rest ih =>
    rcases ih with hSilent | ⟨value, hLast⟩
    · by_cases hItem : ∃ value, gives item key value
      · obtain ⟨value, hGives⟩ := hItem
        exact .inr ⟨value, lastWord_cons_iff.mpr (.inr ⟨hSilent, hGives⟩)⟩
      · exact .inl (silent_cons_iff.mpr ⟨not_exists.mp hItem, hSilent⟩)
    · exact .inr ⟨value, lastWord_cons_iff.mpr (.inl hLast)⟩

theorem exists_lastWord_iff {items : List ι} :
    (∃ value, LastWord gives items key value) ↔ ∃ item ∈ items, ∃ value, gives item key value := by
  constructor
  · rintro ⟨value, h⟩
    obtain ⟨item, hItem, hGives⟩ := h.exists_mem
    exact ⟨item, hItem, value, hGives⟩
  · rintro ⟨item, hItem, value, hGives⟩
    rcases silent_or_lastWord gives items key with hSilent | hLast
    · exact absurd hGives (hSilent item hItem value)
    · exact hLast

section Consistent
variable {items : List ι} {word : String → Option α}

/-- Where no two items contradict each other, the last word is whatever any of them gives. -/
theorem lastWord_iff_of_consistent
    (h : ∀ key value, (∃ item ∈ items, gives item key value) ↔ word key = some value) :
    LastWord gives items key value ↔ word key = some value := by
  constructor
  · intro hLast
    exact (h key value).mp hLast.exists_mem
  · intro hWord
    obtain ⟨item, hItem, hGives⟩ := (h key value).mpr hWord
    obtain ⟨other, hLast⟩ := exists_lastWord_iff.mpr ⟨item, hItem, value, hGives⟩
    have hOther : word key = some other := (h key other).mp hLast.exists_mem
    cases hWord.symm.trans hOther
    exact hLast

theorem silent_iff_of_consistent
    (h : ∀ key value, (∃ item ∈ items, gives item key value) ↔ word key = some value) :
    Silent gives items key ↔ word key = none := by
  rw [Option.eq_none_iff_forall_ne_some]
  constructor
  · intro hSilent value hWord
    obtain ⟨item, hItem, hGives⟩ := (h key value).mpr hWord
    exact hSilent item hItem value hGives
  · intro hNone item hItem value hGives
    exact hNone value ((h key value).mp ⟨item, hItem, hGives⟩)

end Consistent

end LastWord

section FirstWord
variable {ι α β : Type} {items : List ι}

/-- Where all items that say anything say the same, that is what is found. -/
theorem findSome?_eq_of_mem {word : ι → Option α} {item : ι} (hMem : item ∈ items)
    (h : ∀ other ∈ items, word other = none ∨ word other = word item) :
    items.findSome? word = word item := by
  cases hItem : word item with
  | none =>
    refine List.findSome?_eq_none_iff.mpr fun other hOther => ?_
    simpa [hItem] using h other hOther
  | some value =>
    cases hFound : items.findSome? word with
    | none =>
      rw [List.findSome?_eq_none_iff.mp hFound item hMem] at hItem
      cases hItem
    | some found =>
      obtain ⟨other, hOther, hWord⟩ := List.exists_of_findSome?_eq_some hFound
      rcases h other hOther with hNone | hSame
      · rw [hNone] at hWord
        cases hWord
      · rw [hSame, hItem] at hWord
        exact hWord.symm

/-- Reading the first word is finding the first reading, if every word can be read. -/
theorem findSome?_bind {word : ι → Option α} {read : α → Option β}
    (h : ∀ item ∈ items, ∀ value, word item = some value → (read value).isSome) :
    (items.findSome? word).bind read = items.findSome? fun item => (word item).bind read := by
  induction items with
  | nil => rfl
  | cons item rest ih =>
    obtain ⟨hItem, hRest⟩ := List.forall_mem_cons.mp h
    cases hWord : word item with
    | none => simp [hWord, ih hRest]
    | some value =>
      obtain ⟨taken, hTaken⟩ := Option.isSome_iff_exists.mp (hItem value hWord)
      simp [hWord, hTaken]

end FirstWord

end Fleet
