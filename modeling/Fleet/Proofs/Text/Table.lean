import Fleet.Text.Table
import Fleet.Proofs.Text.Width
import Mathlib.Data.List.Forall2

/-!
# Boxes around rows of words

Where all cells are words of printable ASCII, a table has a line for each row and four more. A column
is as wide as its widest cell, in whatever row that stands, so no cell is cut. It starts where the
columns before it end, which is the same place in all rows.
-/
namespace Fleet.Text

/-- What stands between the blanks of a line. -/
def words (line : List Char) : List String :=
  ((line.splitOn ' ').filter (· ≠ [])).map String.ofList

structure IsWord (text : String) : Prop where
  ne_empty : text ≠ ""
  printable : ∀ c ∈ text.toList, '!' ≤ c ∧ c ≤ '~'

instance : DecidablePred IsWord := fun text =>
  decidable_of_iff (text ≠ "" ∧ text.toList.all fun c => '!' ≤ c ∧ c ≤ '~')
    ⟨fun h => ⟨h.1, by simpa using h.2⟩, fun h => ⟨h.1, by simpa using h.2⟩⟩

/-- A cell shows its words one blank apart. -/
def cellText (cell : List String) : String := " ".intercalate cell

/-- A text stands in a line from an offset on, between blanks. -/
def StandsAt (line : List Char) (offset : Nat) (text : String) : Prop :=
  ∃ before after, line = before ++ ' ' :: (text.toList ++ ' ' :: after) ∧ offset = before.length + 1

/-- A line between borders that shows the cells of a row, each at the offset of its column. -/
structure ShowsRow (offsets : List Nat) (line : List Char) (row : List (List String)) : Prop where
  inside : ∃ inner, line = '│' :: inner ++ ['│'] ∧ words inner = row.flatten
  columns : List.Forall₂ (StandsAt line) offsets (row.map cellText)

structure Drawing where
  top : List Char
  header : List Char
  rule : List Char
  body : List (List Char)
  bottom : List Char

namespace Drawing

def lines (drawing : Drawing) : List (List Char) :=
  drawing.top :: drawing.header :: drawing.rule :: drawing.body ++ [drawing.bottom]

structure Shows (drawing : Drawing) (header : List (List String))
    (rows : List (List (List String))) : Prop where
  width : ∃ columns, ∀ line ∈ drawing.lines, line.length = columns ∧ Text.width line = columns
  rows : ∃ offsets : List Nat, offsets.Pairwise (· < ·) ∧
    List.Forall₂ (ShowsRow offsets) (drawing.header :: drawing.body) (header :: rows)

end Drawing

/-- A text of lines, each of which is ended, that draws a table. -/
def IsTable (text : String) (header : List (List String)) (rows : List (List (List String))) :
    Prop :=
  ∃ drawing : Drawing, text.toList.splitOn '\n' = drawing.lines ++ [[]] ∧ drawing.Shows header rows

section Words
variable {text : String} {cell : List String}

theorem words_append_blank (before after : List Char) :
    words (before ++ ' ' :: after) = words before ++ words after := by
  have hSplit := @List.splitOnP_append_cons _ (· == ' ') before after ' ' rfl
  simp only [words, List.splitOn_eq_splitOnP]
  rw [hSplit, List.filter_append, List.map_append]

theorem words_blank_cons (line : List Char) : words (' ' :: line) = words line :=
  words_append_blank [] line

theorem words_replicate_blank (n : Nat) : words (List.replicate n ' ') = [] := by
  induction n with
  | zero => rfl
  | succ n ih => rw [List.replicate_succ, words_blank_cons, ih]

theorem IsWord.isPlain (h : IsWord text) : ∀ c ∈ text.toList, IsPlain c := by
  intro c hc
  have hFrom : 0x21 ≤ c.toNat := (h.printable c hc).1
  have hTo : c.toNat ≤ 0x7E := (h.printable c hc).2
  left
  omega

theorem IsWord.blank_not_mem (h : IsWord text) : ' ' ∉ text.toList := by
  intro hMem
  exact absurd (h.printable _ hMem).1 (by decide)

theorem IsWord.words_toList (h : IsWord text) : words text.toList = [text] := by
  have hSplit : text.toList.splitOn ' ' = [text.toList] := by
    rw [List.splitOn_eq_splitOnP]
    apply List.splitOnP_eq_singleton
    intro c hc
    exact beq_false_of_ne fun hEq => h.blank_not_mem (hEq ▸ hc)
  have hSome : text.toList ≠ [] := by
    rw [ne_eq, String.toList_eq_nil_iff]
    exact h.ne_empty
  simp [words, hSplit, hSome]

theorem toList_cellText_cons_cons (first second : String) (rest : List String) :
    (cellText (first :: second :: rest)).toList =
      first.toList ++ ' ' :: (cellText (second :: rest)).toList := by
  simp [cellText, String.toList_intercalate]

theorem isPlain_cellText (h : ∀ word ∈ cell, IsWord word) :
    ∀ c ∈ (cellText cell).toList, IsPlain c := by
  induction cell with
  | nil => simp [cellText]
  | cons word rest ih =>
    obtain ⟨hWord, hRest⟩ := List.forall_mem_cons.mp h
    cases rest with
    | nil => simpa [cellText] using hWord.isPlain
    | cons second rest =>
      rw [toList_cellText_cons_cons]
      refine List.forall_mem_append.mpr ⟨hWord.isPlain, ?_⟩
      exact List.forall_mem_cons.mpr ⟨by decide, ih hRest⟩

theorem words_cellText (h : ∀ word ∈ cell, IsWord word) : words (cellText cell).toList = cell := by
  induction cell with
  | nil => rfl
  | cons word rest ih =>
    obtain ⟨hWord, hRest⟩ := List.forall_mem_cons.mp h
    cases rest with
    | nil => simpa [cellText] using hWord.words_toList
    | cons second rest =>
      rw [toList_cellText_cons_cons, words_append_blank, hWord.words_toList, ih hRest]
      rfl

end Words

namespace Table

theorem cellLines_of_not_mem {text : List Char} (h : '\n' ∉ text) : cellLines text = [text] := by
  induction text with
  | nil => rfl
  | cons c rest ih =>
    rw [List.mem_cons, not_or] at h
    rw [cellLines, if_neg (Ne.symm h.1), ih h.2]

/-- The line of a row all of whose cells have one line. -/
def textLine (widths : List Nat) (texts : List (List Char)) : List Char :=
  '│' :: joinColumns (List.zipWith pad widths texts) ++ ['│']

abbrev singleLines (texts : List (List Char)) : List Cell := texts.map fun text => [text]

theorem rowLines_singleLines (widths : List Nat) (texts : List (List Char)) :
    rowLines widths (singleLines texts) = [textLine widths texts] := by
  have hHeight : ((singleLines texts).map List.length).foldl max 1 = 1 := by
    induction texts with
    | nil => rfl
    | cons text rest ih => simpa using ih
  rw [rowLines, hHeight]
  simp [rowLine, textLine, List.zipWith_map_right]

structure Fits (width : Nat) (text : List Char) : Prop where
  plain : ∀ c ∈ text, IsPlain c
  length_le : text.length ≤ width

theorem pad_of_fits {width : Nat} {text : List Char} (h : Fits width text) :
    pad width text = ' ' :: (text ++ ' ' :: List.replicate (width - text.length) ' ') := by
  rw [pad, width_of_isPlain h.plain, List.append_assoc, ← List.replicate_succ', List.replicate_succ]
  rfl

theorem length_pad {width : Nat} {text : List Char} (h : Fits width text) :
    (pad width text).length = width + 2 := by
  have hLe := h.length_le
  rw [pad_of_fits h]
  simp only [List.length_cons, List.length_append, List.length_replicate]
  omega

theorem isPlain_pad {width : Nat} {text : List Char} (h : Fits width text) :
    ∀ c ∈ pad width text, IsPlain c := by
  have hBlank : IsPlain ' ' := by decide
  rw [pad_of_fits h]
  refine List.forall_mem_cons.mpr ⟨hBlank, List.forall_mem_append.mpr ⟨h.plain, ?_⟩⟩
  refine List.forall_mem_cons.mpr ⟨hBlank, ?_⟩
  intro c hc
  rwa [List.eq_of_mem_replicate hc]

theorem words_pad {width : Nat} {text : List Char} (h : Fits width text) :
    words (pad width text) = words text := by
  rw [pad_of_fits h, words_blank_cons, words_append_blank, words_replicate_blank, List.append_nil]

@[simp]
theorem joinColumns_singleton (part : List Char) : joinColumns [part] = part :=
  List.intercalate_singleton

theorem joinColumns_cons_cons (first second : List Char) (rest : List (List Char)) :
    joinColumns (first :: second :: rest) = first ++ ' ' :: joinColumns (second :: rest) := by
  simp [joinColumns]

section Layout
variable {widths : List Nat} {texts : List (List Char)}

theorem length_joinColumns (h : List.Forall₂ Fits widths texts) :
    (joinColumns (List.zipWith pad widths texts)).length = innerWidth widths := by
  induction h with
  | nil => rfl
  | @cons width text widths texts hFits hRest ih =>
    have hLength := length_pad hFits
    cases hRest with
    | nil => simpa [innerWidth] using hLength
    | cons hSecond hRest =>
      simp only [List.zipWith_cons_cons, joinColumns_cons_cons, List.length_append, List.length_cons,
        innerWidth] at ih ⊢
      omega

theorem isPlain_joinColumns (h : List.Forall₂ Fits widths texts) :
    ∀ c ∈ joinColumns (List.zipWith pad widths texts), IsPlain c := by
  induction h with
  | nil => simp [joinColumns]
  | @cons width text widths texts hFits hRest ih =>
    cases hRest with
    | nil => simpa using isPlain_pad hFits
    | cons hSecond hRest =>
      rw [List.zipWith_cons_cons, List.zipWith_cons_cons, joinColumns_cons_cons]
      exact List.forall_mem_append.mpr ⟨isPlain_pad hFits, List.forall_mem_cons.mpr ⟨by decide, ih⟩⟩

theorem words_joinColumns (h : List.Forall₂ Fits widths texts) :
    words (joinColumns (List.zipWith pad widths texts)) = texts.flatMap words := by
  induction h with
  | nil => rfl
  | @cons width text widths texts hFits hRest ih =>
    cases hRest with
    | nil => simpa using words_pad hFits
    | cons hSecond hRest =>
      rw [List.zipWith_cons_cons, List.zipWith_cons_cons, joinColumns_cons_cons, words_append_blank,
        words_pad hFits, List.flatMap_cons]
      exact congrArg _ ih

/-- Where the columns of these widths start, the first at `offset`. -/
def starts (offset : Nat) : List Nat → List Nat
  | [] => []
  | width :: rest => offset :: starts (offset + width + 3) rest

theorem le_of_mem_starts {offset start : Nat} (h : start ∈ starts offset widths) :
    offset ≤ start := by
  induction widths generalizing offset with
  | nil => cases h
  | cons width rest ih =>
    obtain rfl | h := List.mem_cons.mp h
    · exact Nat.le_refl _
    · have hLe := ih h
      omega

theorem pairwise_starts (offset : Nat) (widths : List Nat) :
    (starts offset widths).Pairwise (· < ·) := by
  induction widths generalizing offset with
  | nil => exact List.Pairwise.nil
  | cons width rest ih =>
    refine List.Pairwise.cons ?_ (ih _)
    intro start hStart
    have hLe := le_of_mem_starts hStart
    omega

theorem standsAt_starts (h : List.Forall₂ Fits widths texts) (before after : List Char) :
    List.Forall₂ (fun offset text => StandsAt
      (before ++ joinColumns (List.zipWith pad widths texts) ++ after) offset (String.ofList text))
      (starts (before.length + 1) widths) texts := by
  induction h generalizing before with
  | nil => exact .nil
  | @cons width text widths texts hFits hRest ih =>
    have hLength := length_pad hFits
    cases hRest with
    | nil =>
      refine .cons ⟨before, List.replicate (width - text.length) ' ' ++ after, ?_, rfl⟩ .nil
      simp [pad_of_fits hFits]
    | @cons second next widths texts hSecond hRest =>
      rw [List.zipWith_cons_cons, List.zipWith_cons_cons, joinColumns_cons_cons]
      refine .cons ⟨before, List.replicate (width - text.length) ' ' ++
        ' ' :: joinColumns (List.zipWith pad (second :: widths) (next :: texts)) ++ after, ?_, rfl⟩ ?_
      · simp [pad_of_fits hFits]
      -- What stands before the other columns is one column and the blank after it longer.
      · have hRest := ih (before ++ pad width text ++ [' '])
        have hStart : (before ++ pad width text ++ [' ']).length + 1 =
            before.length + 1 + width + 3 := by
          simp only [List.length_append, hLength, List.length_singleton]
          omega
        rw [hStart] at hRest
        simpa using hRest

end Layout

section Columns
variable {widths others : List Nat} {texts : List (List Char)} {rows : List (List (List Char))}

theorem Fits.mono {width other : Nat} {text : List Char} (h : Fits width text)
    (hLe : width ≤ other) : Fits other text :=
  ⟨h.plain, Nat.le_trans h.length_le hLe⟩

theorem fits_zipWith_max (h : List.Forall₂ Fits widths texts)
    (hLength : widths.length = others.length) :
    List.Forall₂ Fits (List.zipWith max widths others) texts := by
  induction h generalizing others with
  | nil => exact .nil
  | cons hFits hRest ih =>
    cases others with
    | nil => cases hLength
    | cons other others =>
      exact .cons (hFits.mono (Nat.le_max_left _ _)) (ih (Nat.succ.inj hLength))

theorem fits_cellWidth (h : ∀ text ∈ texts, ∀ c ∈ text, IsPlain c) :
    List.Forall₂ Fits ((singleLines texts).map cellWidth) texts := by
  rw [List.map_map, List.forall₂_map_left_iff, List.forall₂_same]
  intro text hText
  have hWidth : cellWidth [text] = text.length := by
    rw [← width_of_isPlain (h text hText)]
    simp [cellWidth]
  exact ⟨h text hText, Nat.le_of_eq hWidth.symm⟩

theorem length_columnWidths {count : Nat} (hSome : rows ≠ [])
    (hCount : ∀ row ∈ rows, row.length = count) :
    (columnWidths (rows.map singleLines)).length = count := by
  induction rows with
  | nil => exact absurd rfl hSome
  | cons row rows ih =>
    obtain ⟨hRow, hRows⟩ := List.forall_mem_cons.mp hCount
    cases rows with
    | nil => simpa [columnWidths] using hRow
    | cons second rows =>
      have hRest := ih (List.cons_ne_nil _ _) hRows
      simp only [List.map_cons] at hRest
      simp [columnWidths, hRow, hRest]

theorem fits_columnWidths {count : Nat} (hCount : ∀ row ∈ rows, row.length = count)
    (hPlain : ∀ row ∈ rows, ∀ text ∈ row, ∀ c ∈ text, IsPlain c) :
    ∀ row ∈ rows, List.Forall₂ Fits (columnWidths (rows.map singleLines)) row := by
  induction rows with
  | nil => exact List.forall_mem_nil _
  | cons row rows ih =>
    obtain ⟨hRow, hRows⟩ := List.forall_mem_cons.mp hCount
    obtain ⟨hRowPlain, hRowsPlain⟩ := List.forall_mem_cons.mp hPlain
    have hFits := fits_cellWidth hRowPlain
    have hLater := ih hRows hRowsPlain
    cases rows with
    | nil => simpa [columnWidths] using hFits
    | cons second rows =>
      have hLength : ((singleLines row).map cellWidth).length =
          (columnWidths ((second :: rows).map singleLines)).length := by
        rw [length_columnWidths (List.cons_ne_nil _ _) hRows]
        simpa using hRow
      refine List.forall_mem_cons.mpr ⟨fits_zipWith_max hFits hLength, ?_⟩
      intro other hOther
      -- A later row fits the widths of the later rows, and the first row only adds to them.
      have hMax := fits_zipWith_max (hLater other hOther) hLength.symm
      rwa [List.zipWith_comm_of_comm Nat.max_comm] at hMax

end Columns

/-- A plain line of the given length. -/
structure Spans (length : Nat) (line : List Char) : Prop where
  plain : ∀ c ∈ line, IsPlain c
  length_eq : line.length = length

theorem spans_border {left middle right : Char} (hLeft : IsPlain left) (hMiddle : IsPlain middle)
    (hRight : IsPlain right) (widths : List Nat) :
    Spans (innerWidth widths + 2) (border widths left middle right) where
  plain := by
    refine List.forall_mem_cons.mpr ⟨hLeft, List.forall_mem_append.mpr ⟨?_, ?_⟩⟩
    · intro c hc
      rwa [List.eq_of_mem_replicate hc]
    · exact List.forall_mem_singleton.mpr hRight
  length_eq := by simp [border]

theorem spans_textLine {widths : List Nat} {texts : List (List Char)}
    (h : List.Forall₂ Fits widths texts) :
    Spans (innerWidth widths + 2) (textLine widths texts) where
  plain := by
    have hBorder : IsPlain '│' := by decide
    refine List.forall_mem_cons.mpr ⟨hBorder, List.forall_mem_append.mpr ⟨isPlain_joinColumns h, ?_⟩⟩
    exact List.forall_mem_singleton.mpr hBorder
  length_eq := by simp [textLine, length_joinColumns h]

/-- A break at the end of a text begins one more line, which is empty. -/
theorem intercalate_concat_nil {lines : List (List Char)} (h : lines ≠ []) :
    ['\n'].intercalate (lines ++ [[]]) = ['\n'].intercalate lines ++ ['\n'] := by
  induction lines with
  | nil => exact absurd rfl h
  | cons line rest ih =>
    cases rest with
    | nil => simp
    | cons second rest =>
      have hRest := ih (List.cons_ne_nil _ _)
      simp only [List.cons_append, List.intercalate_cons_cons, List.append_assoc] at hRest ⊢
      rw [hRest]

theorem splitOn_render {table : Table} (h : ∀ line ∈ table.lines, '\n' ∉ line) :
    (table.render ++ "\n").toList.splitOn '\n' = table.lines ++ [[]] := by
  have hSome : table.lines ≠ [] := List.cons_ne_nil _ _
  have hText : (table.render ++ "\n").toList = ['\n'].intercalate (table.lines ++ [[]]) := by
    rw [intercalate_concat_nil hSome, String.toList_append, render, String.toList_ofList]
    rfl
  have hBreak : ∀ line ∈ table.lines ++ [[]], '\n' ∉ line :=
    List.forall_mem_append.mpr ⟨h, List.forall_mem_singleton.mpr List.not_mem_nil⟩
  rw [hText, List.splitOn_intercalate '\n' hBreak (List.append_ne_nil_of_left_ne_nil hSome _)]

abbrev texts (row : List (List String)) : List (List Char) :=
  row.map fun cell => (cellText cell).toList

section Drawn
variable {widths : List Nat} {header row : List (List String)} {rows : List (List (List String))}

theorem isPlain_texts (h : ∀ cell ∈ row, ∀ word ∈ cell, IsWord word) :
    ∀ text ∈ texts row, ∀ c ∈ text, IsPlain c := by
  intro text hText
  obtain ⟨cell, hCell, rfl⟩ := List.mem_map.mp hText
  exact isPlain_cellText (h cell hCell)

theorem showsRow_textLine (hWords : ∀ cell ∈ row, ∀ word ∈ cell, IsWord word)
    (h : List.Forall₂ Fits widths (texts row)) :
    ShowsRow (starts 2 widths) (textLine widths (texts row)) row where
  inside := by
    refine ⟨_, rfl, ?_⟩
    rw [words_joinColumns h, List.flatMap_map, List.flatten_eq_flatMap]
    exact List.flatMap_congr fun cell hCell => words_cellText (hWords cell hCell)
  columns := by
    have hStands := standsAt_starts h ['│'] ['│']
    rw [List.forall₂_map_right_iff] at hStands ⊢
    simp only [String.ofList_toList] at hStands
    exact hStands

def drawing (widths : List Nat) (header : List (List String)) (rows : List (List (List String))) :
    Drawing where
  top := border widths '┌' '─' '┐'
  header := textLine widths (texts header)
  rule := border widths '╞' '═' '╡'
  body := rows.map fun row => textLine widths (texts row)
  bottom := border widths '└' '─' '┘'

theorem spans_lines (h : ∀ row ∈ header :: rows, List.Forall₂ Fits widths (texts row)) :
    ∀ line ∈ (drawing widths header rows).lines, Spans (innerWidth widths + 2) line := by
  obtain ⟨hHeader, hRows⟩ := List.forall_mem_cons.mp h
  simp only [drawing, Drawing.lines, List.cons_append, List.forall_mem_cons, List.forall_mem_append,
    List.forall_mem_map]
  exact ⟨spans_border (by decide) (by decide) (by decide) widths, spans_textLine hHeader,
    spans_border (by decide) (by decide) (by decide) widths,
    fun row hRow => spans_textLine (hRows row hRow),
    spans_border (by decide) (by decide) (by decide) widths, List.forall_mem_nil _⟩

theorem shows_drawing (hWords : ∀ row ∈ header :: rows, ∀ cell ∈ row, ∀ word ∈ cell, IsWord word)
    (h : ∀ row ∈ header :: rows, List.Forall₂ Fits widths (texts row)) :
    (drawing widths header rows).Shows header rows where
  width := by
    refine ⟨innerWidth widths + 2, ?_⟩
    intro line hLine
    have hSpans := spans_lines h line hLine
    exact ⟨hSpans.length_eq, (width_of_isPlain hSpans.plain).trans hSpans.length_eq⟩
  rows := by
    refine ⟨starts 2 widths, pairwise_starts 2 widths, ?_⟩
    change List.Forall₂ _ ((header :: rows).map fun row => textLine widths (texts row)) _
    rw [List.forall₂_map_left_iff, List.forall₂_same]
    intro row hRow
    exact showsRow_textLine (hWords row hRow) (h row hRow)

theorem cellLines_cellText (h : ∀ cell ∈ row, ∀ word ∈ cell, IsWord word) :
    (row.map cellText).map (fun text => cellLines text.toList) = singleLines (texts row) := by
  rw [singleLines, texts, List.map_map, List.map_map]
  apply List.map_congr_left
  intro cell hCell
  apply cellLines_of_not_mem
  intro hMem
  exact absurd (isPlain_cellText (h cell hCell) _ hMem) (by decide)

theorem lines_ofStrings
    (hWords : ∀ row ∈ header :: rows, ∀ cell ∈ row, ∀ word ∈ cell, IsWord word) :
    (ofStrings (header.map cellText) (rows.map fun row => row.map cellText)).lines =
      (drawing (columnWidths (((header :: rows).map texts).map singleLines)) header rows).lines := by
  obtain ⟨hHeader, hRows⟩ := List.forall_mem_cons.mp hWords
  have hCells : (rows.map fun row => row.map cellText).map
      (fun row => row.map fun text => cellLines text.toList) = (rows.map texts).map singleLines := by
    rw [List.map_map, List.map_map]
    exact List.map_congr_left fun row hRow => cellLines_cellText (hRows row hRow)
  simp only [ofStrings, lines, cellLines_cellText hHeader, hCells, rowLines_singleLines,
    List.flatMap_map, ← List.map_eq_flatMap]
  rfl

/-- Rows of words, all as long as the header, are drawn as a table. -/
theorem isTable_render (hCount : ∀ row ∈ rows, row.length = header.length)
    (hWords : ∀ row ∈ header :: rows, ∀ cell ∈ row, ∀ word ∈ cell, IsWord word) :
    IsTable ((ofStrings (header.map cellText) (rows.map fun row => row.map cellText)).render ++ "\n")
      header rows := by
  have hTexts : ∀ row ∈ (header :: rows).map texts, row.length = header.length ∧
      ∀ text ∈ row, ∀ c ∈ text, IsPlain c := by
    intro text hText
    obtain ⟨row, hRow, rfl⟩ := List.mem_map.mp hText
    have hLength : row.length = header.length := by
      obtain rfl | hRow := List.mem_cons.mp hRow
      · rfl
      · exact hCount row hRow
    exact ⟨by simpa using hLength, isPlain_texts (hWords row hRow)⟩
  have hFits := fits_columnWidths (fun row hRow => (hTexts row hRow).1) fun row hRow =>
    (hTexts row hRow).2
  rw [List.forall_mem_map] at hFits
  refine ⟨_, ?_, shows_drawing hWords hFits⟩
  rw [← lines_ofStrings hWords]
  apply splitOn_render
  rw [lines_ofStrings hWords]
  intro line hLine hMem
  exact absurd ((spans_lines hFits line hLine).plain _ hMem) (by decide)

end Drawn

end Table

end Fleet.Text
