import Fleet.Proofs.Toml.Lexeme

/-!
# TOML documents laid out in lines

A document of the plain kind has in each line a header of an array of tables, a key with a value,
or nothing. `Lays` relates the lines to the texts in which they stand, with either line break, with
empty lines anywhere, and with or without a break at the end. Reading such a text gives back one
statement for each line, which `Says` what the line does; the places are left open.
-/
namespace Fleet.Toml
open Json (dropWhile_append_of_head ne_of_test takeWhile_append_of_head)

inductive Line where
  | element (key : String)
  | assign (key : String) (value : Json)

/-- The key needs no quotes. -/
def IsBare (key : String) : Prop := key.toList ≠ [] ∧ ∀ c ∈ key.toList, isBareKey c = true

inductive LineText : Line → List Char → Prop where
  | element {key : String} : IsBare key →
      LineText (.element key) ('[' :: '[' :: (key.toList ++ [']', ']']))
  | assign {key : String} {value : Json} {text : List Char} : IsBare key → Writes value text →
      LineText (.assign key value) (key.toList ++ ' ' :: '=' :: ' ' :: text)

/-- A line ends here, and the text goes on with the second part. -/
inductive Breaks : List Char → List Char → Prop where
  | feed (after : List Char) : Breaks ('\n' :: after) after
  | carriage (after : List Char) : Breaks ('\r' :: '\n' :: after) after
  | stop : Breaks [] []

inductive Lays : List Line → List Char → Prop where
  | nil : Lays [] []
  | blank {lines : List Line} {rest after : List Char} : Breaks rest after → Lays lines after →
      Lays lines rest
  | line {line : Line} {lines : List Line} {text rest after : List Char} : LineText line text →
      Breaks rest after → Lays lines after → Lays (line :: lines) (text ++ rest)

inductive Says : Statement → Line → Prop where
  | element (key : String) (place span : Span) :
      Says (.element [] ⟨key, place⟩ span) (.element key)
  | assign (key : String) (place span : Span) {item : Item} {value : Json} : item.Shows value →
      Says (.assign [] ⟨key, place⟩ span item) (.assign key value)

theorem exists_lays {lines : List Line} (h : ∀ line ∈ lines, ∃ text, LineText line text) :
    ∃ text, Lays lines text := by
  induction lines with
  | nil => exact ⟨[], .nil⟩
  | cons line lines ih =>
    obtain ⟨hLine, hLines⟩ := List.forall_mem_cons.mp h
    obtain ⟨text, hText⟩ := hLine
    obtain ⟨after, hAfter⟩ := ih hLines
    exact ⟨_, .line hText (.feed after) hAfter⟩

theorem Breaks.endsLine {rest after : List Char} (h : Breaks rest after) : EndsLine rest := by
  cases h <;> simp [EndsLine]

theorem Breaks.endLine? {rest after : List Char} (h : Breaks rest after) :
    endLine? rest = some after := by
  cases h <;> rfl

theorem Breaks.length_le {rest after : List Char} (h : Breaks rest after) :
    after.length ≤ rest.length := by
  cases h with
  | feed => exact Nat.le_succ _
  | carriage => exact Nat.le_add_right _ 2
  | stop => exact Nat.le_refl _

section Keys
variable {key : String}

theorem IsBare.eq_cons (h : IsBare key) :
    ∃ c more, key.toList = c :: more ∧ isBareKey c = true := by
  obtain ⟨c, more, hKey⟩ := List.exists_cons_of_ne_nil h.1
  exact ⟨c, more, hKey, h.2 c (hKey ▸ List.mem_cons_self)⟩

theorem isBlank_of_isBareKey {c : Char} (h : isBareKey c = true) : isBlank c = false := by
  have hSpace : c ≠ ' ' := ne_of_test h (by decide)
  have hTab : c ≠ '\t' := ne_of_test h (by decide)
  simp [isBlank, hSpace, hTab]

theorem skipBlank_cons {c : Char} (h : isBlank c = false) (rest : List Char) :
    skipBlank (c :: rest) = c :: rest :=
  List.dropWhile_cons_of_neg (by simp [h])

theorem skipBlank_bare (h : IsBare key) (rest : List Char) :
    skipBlank (key.toList ++ rest) = key.toList ++ rest := by
  obtain ⟨c, more, hKey, hc⟩ := h.eq_cons
  rw [hKey, List.cons_append, skipBlank_cons (isBlank_of_isBareKey hc)]

theorem simpleKey?_bare (h : IsBare key) {rest : List Char}
    (hRest : ∀ c ∈ rest.head?, isBareKey c = false) :
    simpleKey? (key.toList ++ rest) = some (key, rest) := by
  have hTake := takeWhile_append_of_head h.2 hRest
  have hDrop := dropWhile_append_of_head h.2 hRest
  obtain ⟨c, more, hKey, hc⟩ := h.eq_cons
  have hDouble : c ≠ '"' := ne_of_test hc (by decide)
  have hSingle : c ≠ '\'' := ne_of_test hc (by decide)
  have hString : String.ofList (c :: more) = key := by rw [← hKey, String.ofList_toList]
  rw [hKey, List.cons_append] at hTake hDrop ⊢
  simp [simpleKey?, hDouble, hSingle, hTake, hDrop, hString]

theorem keyPath?_bare (h : IsBare key) {rest more : List Char} {c : Char}
    (hRest : ∀ c ∈ rest.head?, isBareKey c = false) (hMore : skipBlank rest = c :: more)
    (hPlain : c ≠ '.') :
    ∃ place, keyPath? (key.toList ++ rest) = some ([], ⟨key, place⟩, c :: more) := by
  have hDotted (fuel : Nat) : dottedKey? (fuel + 1) (key.toList ++ rest) =
      some ([⟨key, ⟨key.toList ++ rest, rest⟩⟩], c :: more) := by
    simp [dottedKey?, skipBlank_bare h, simpleKey?_bare h hRest, hMore, hPlain]
  exact ⟨⟨key.toList ++ rest, rest⟩, by simp [keyPath?, hDotted, depthLimit]⟩

end Keys

section Statements

theorem skipBlank_of_writes {value : Json} {text : List Char} (h : Writes value text)
    (rest : List Char) : skipBlank (' ' :: (text ++ rest)) = text ++ rest := by
  have hBlank : skipBlank (' ' :: (text ++ rest)) = skipBlank (text ++ rest) := by
    simp [skipBlank, isBlank]
  rw [hBlank]
  cases h with
  | string hQuotes =>
    obtain ⟨forms, -, rfl⟩ := hQuotes
    rfl
  | @natural n hBound =>
    obtain ⟨c, more, hDigits, hDigit, -⟩ := Json.toDigits_eq_cons n
    have hBare : isBareKey c = true := by simp [isBareKey, Char.isAlphanum, hDigit]
    rw [hDigits, List.cons_append, skipBlank_cons (isBlank_of_isBareKey hBare)]

theorem statement?_element {key : String} (h : IsBare key) {rest after : List Char}
    (hRest : Breaks rest after) :
    ∃ place span, statement? ('[' :: '[' :: (key.toList ++ ']' :: ']' :: rest)) =
      some (.element [] ⟨key, place⟩ span, after) := by
  have hSkip : skipBlank (']' :: ']' :: rest) = ']' :: ']' :: rest := rfl
  obtain ⟨place, hPath⟩ := keyPath?_bare h (by simp [isBareKey]) hSkip (by decide)
  exact ⟨place, ⟨'[' :: '[' :: (key.toList ++ ']' :: ']' :: rest), rest⟩, by
    simp [statement?, hPath, hRest.endLine?]⟩

theorem statement?_assign {key : String} (h : IsBare key) {value : Json} {text : List Char}
    (hText : Writes value text) {rest after : List Char} (hRest : Breaks rest after) :
    ∃ place span item, item.Shows value ∧
      statement? (key.toList ++ ' ' :: '=' :: ' ' :: (text ++ rest)) =
        some (.assign [] ⟨key, place⟩ span item, after) := by
  have hSkip : skipBlank (' ' :: '=' :: ' ' :: (text ++ rest)) = '=' :: ' ' :: (text ++ rest) := rfl
  obtain ⟨place, hPath⟩ := keyPath?_bare h (by simp [isBareKey]) hSkip (by decide)
  obtain ⟨item, hShows, hValue⟩ := value?_of_writes hText hRest.endsLine
  obtain ⟨c, more, hKey, hc⟩ := h.eq_cons
  have hHeader : c ≠ '[' := ne_of_test hc (by decide)
  refine ⟨place, ⟨text ++ rest, rest⟩, item, hShows, ?_⟩
  rw [hKey, List.cons_append] at hPath ⊢
  simp [statement?, hHeader, hPath, skipBlank_of_writes hText, hValue, hRest.endLine?]

theorem statement?_of_line {line : Line} {text : List Char} (h : LineText line text)
    {rest after : List Char} (hRest : Breaks rest after) :
    ∃ statement, Says statement line ∧ statement? (text ++ rest) = some (statement, after) := by
  cases h with
  | element hKey =>
    obtain ⟨place, span, hStatement⟩ := statement?_element hKey hRest
    refine ⟨_, .element _ place span, ?_⟩
    rw [← hStatement]
    simp
  | assign hKey hText =>
    obtain ⟨place, span, item, hShows, hStatement⟩ := statement?_assign hKey hText hRest
    refine ⟨_, .assign _ place span hShows, ?_⟩
    rw [← hStatement]
    simp

/-- A line with something in it opens with a bracket or with its key. -/
theorem LineText.eq_cons {line : Line} {text : List Char} (h : LineText line text) :
    ∃ c more, text = c :: more ∧ (c = '[' ∨ isBareKey c = true) := by
  cases h with
  | element hKey => exact ⟨_, _, rfl, .inl rfl⟩
  | assign hKey hText =>
    obtain ⟨c, more, hEq, hc⟩ := hKey.eq_cons
    exact ⟨c, _, by rw [hEq, List.cons_append], .inr hc⟩

theorem LineText.ne_nil {line : Line} {text : List Char} (h : LineText line text) : text ≠ [] := by
  obtain ⟨c, more, rfl, -⟩ := h.eq_cons
  simp

theorem statements?_line {line : Line} {text : List Char} (h : LineText line text)
    {rest after : List Char} (hRest : Breaks rest after) :
    ∃ statement, Says statement line ∧ ∀ fuel more, statements? fuel after = some more →
      statements? (fuel + 1) (text ++ rest) = some (statement :: more) := by
  obtain ⟨statement, hSays, hStatement⟩ := statement?_of_line h hRest
  obtain ⟨c, more, rfl, hc⟩ := h.eq_cons
  have hOther (d : Char) (hd : isBareKey d = false) (hBracket : d ≠ '[') : c ≠ d := by
    rcases hc with rfl | hc
    · exact hBracket.symm
    · exact ne_of_test hc hd
  have hSkip : skipBlank (c :: (more ++ rest)) = c :: (more ++ rest) := by
    refine skipBlank_cons ?_ _
    rcases hc with rfl | hc
    · rfl
    · exact isBlank_of_isBareKey hc
  have hComment : c ≠ '#' := hOther '#' (by decide) (by decide)
  have hFeed : c ≠ '\n' := hOther '\n' (by decide) (by decide)
  have hCarriage : c ≠ '\r' := hOther '\r' (by decide) (by decide)
  -- Neither the end of the text, a comment nor a line break comes first, so a statement is read.
  refine ⟨statement, hSays, fun fuel more hMore => ?_⟩
  rw [List.cons_append] at hStatement ⊢
  simp [statements?, hSkip, lineBreak?, hComment, hFeed, hCarriage, hStatement, hMore]

/-- Every line is read as one statement, and empty lines as none. -/
theorem statements?_of_lays {lines : List Line} {text : List Char} (h : Lays lines text)
    {fuel : Nat} (hFuel : text.length ≤ fuel) :
    ∃ statements, statements? fuel text = some statements ∧
      List.Forall₂ Says statements lines := by
  -- Each line takes one of the fuel, and at least one character of the text.
  induction h generalizing fuel with
  | nil => cases fuel <;> exact ⟨[], rfl, .nil⟩
  | blank hBreaks _ ih =>
    cases hBreaks with
    | stop => exact ih hFuel
    | feed after =>
      cases fuel with
      | zero => cases hFuel
      | succ fuel => exact ih (by simpa using hFuel)
    | carriage after =>
      cases fuel with
      | zero => cases hFuel
      | succ fuel => exact ih (by simp only [List.length_cons] at hFuel; omega)
  | line hLine hBreaks _ ih =>
    obtain ⟨statement, hSays, hStatements⟩ := statements?_line hLine hBreaks
    have hPos : 0 < _ := List.length_pos_iff.mpr hLine.ne_nil
    have hLength := hBreaks.length_le
    rw [List.length_append] at hFuel
    obtain ⟨fuel, rfl⟩ : ∃ less, fuel = less + 1 := ⟨fuel - 1, by omega⟩
    obtain ⟨more, hMore, hAll⟩ := ih (show _ ≤ fuel by omega)
    exact ⟨statement :: more, hStatements fuel more hMore, .cons hSays hAll⟩

theorem withoutMark_of_lays {lines : List Line} {text : List Char} (h : Lays lines text) :
    withoutMark text = text := by
  cases h with
  | nil => rfl
  | blank hBreaks _ => cases hBreaks <;> rfl
  | line hLine _ _ =>
    obtain ⟨c, more, rfl, hc⟩ := hLine.eq_cons
    have hMark : c.toNat ≠ 0xFEFF := by
      intro hMark
      have hEq : c = Char.ofNat 0xFEFF := by rw [← hMark, Char.ofNat_toNat]
      rw [hEq] at hc
      revert hc
      decide
    simp [withoutMark, hMark]

/-- A text that is laid out in lines is read by carrying out what the lines say. -/
theorem read?_of_lays {lines : List Line} {text : String} (h : Lays lines text.toList) :
    ∃ statements, List.Forall₂ Says statements lines ∧
      read? text = Members.ofStatements? statements := by
  obtain ⟨statements, hRead, hSays⟩ := statements?_of_lays h (Nat.le_succ _)
  refine ⟨statements, hSays, ?_⟩
  simp [read?, withoutMark_of_lays h, hRead]

end Statements

end Fleet.Toml
