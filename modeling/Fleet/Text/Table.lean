import Fleet.Text.Width

/-!
# Boxed tables

A table has a header and rows of cells and is drawn in a box of lines. A cell may have several
lines; a row is as high as its highest cell. Each column is as wide as its widest line, with a
blank on either side, and columns stand one blank apart.
-/
namespace Fleet.Text

/-- The lines of a cell, cut at line breaks. -/
def cellLines : List Char → List (List Char)
  | [] => [[]]
  | c :: rest =>
    if c = '\n' then [] :: cellLines rest
    else
      match cellLines rest with
      | line :: more => (c :: line) :: more
      | [] => [[c]]

abbrev Cell := List (List Char)

structure Table where
  header : List Cell
  rows : List (List Cell)

namespace Table

def ofStrings (header : List String) (rows : List (List String)) : Table :=
  let cell (s : String) : Cell := cellLines s.toList
  ⟨header.map cell, rows.map fun row => row.map cell⟩

def cellWidth (cell : Cell) : Nat := (cell.map width).foldl max 0

/-- The widths of the columns, from the widths of their cells. -/
def columnWidths : List (List Cell) → List Nat
  | [] => []
  | [row] => row.map cellWidth
  | row :: rest => List.zipWith max (row.map cellWidth) (columnWidths rest)

def pad (columnWidth : Nat) (line : List Char) : List Char :=
  ' ' :: line ++ List.replicate (columnWidth - width line) ' ' ++ [' ']

def joinColumns (parts : List (List Char)) : List Char := [' '].intercalate parts

def rowLine (widths : List Nat) (row : List Cell) (index : Nat) : List Char :=
  '│' :: joinColumns (List.zipWith (fun w cell => pad w (cell.getD index [])) widths row) ++ ['│']

def rowLines (widths : List Nat) (row : List Cell) : List (List Char) :=
  (List.range ((row.map List.length).foldl max 1)).map (rowLine widths row)

/-- The columns between the border lines, with their blanks. -/
def innerWidth : List Nat → Nat
  | [] => 0
  | [w] => w + 2
  | w :: rest => w + 3 + innerWidth rest

def border (widths : List Nat) (left middle right : Char) : List Char :=
  left :: List.replicate (innerWidth widths) middle ++ [right]

def lines (table : Table) : List (List Char) :=
  let widths := columnWidths (table.header :: table.rows)
  border widths '┌' '─' '┐' :: rowLines widths table.header ++
    border widths '╞' '═' '╡' :: table.rows.flatMap (rowLines widths) ++
    [border widths '└' '─' '┘']

def render (table : Table) : String := String.ofList (['\n'].intercalate table.lines)

end Table

end Fleet.Text
