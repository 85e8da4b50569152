import Commissioner.Text.Width

/-!
# Grids

A grid is a heading and rows of cells, drawn with box characters. A column is as
wide as the widest line in it and cells are set to the left with a blank at each
side. A cell with line breaks makes its row taller. A double line stands below
the heading and a dashed one between rows.
-/

set_option autoImplicit false

namespace Commissioner.Grid

/-- The lines of a cell. -/
def cellLines (cell : String) : List String :=
  cell.splitOn "\n"

/-- The width of the widest line of a cell. -/
def cellWidth (cell : String) : Nat :=
  ((cellLines cell).map Text.width).foldl max 0

/-- Widths of columns, made wide enough for one more row. -/
def widen : List Nat → List String → List Nat
  | width :: widths, cell :: cells => max width (cellWidth cell) :: widen widths cells
  | widths, [] => widths
  | [], cells => cells.map cellWidth

def columnWidths (rows : List (List String)) : List Nat :=
  rows.foldl widen []

/-- The same text a number of times. -/
def repeated (n : Nat) (text : String) : String :=
  String.join (List.replicate n text)

/-- The four marks of a horizontal line. -/
structure Rule where
  /-- The mark at the left end. -/
  left : String
  /-- The mark along the line. -/
  along : String
  /-- The mark where columns meet. -/
  crossing : String
  /-- The mark at the right end. -/
  right : String

/-- The line above everything. -/
def top : Rule := ⟨"┌", "─", "┬", "┐"⟩

/-- The line below the heading. -/
def underHeading : Rule := ⟨"╞", "═", "╪", "╡"⟩

/-- The line between rows. -/
def between : Rule := ⟨"├", "╌", "┼", "┤"⟩

/-- The line below everything. -/
def bottom : Rule := ⟨"└", "─", "┴", "┘"⟩

/-- A horizontal line over columns of these widths. -/
def Rule.draw (rule : Rule) (widths : List Nat) : String :=
  rule.left ++ rule.crossing.intercalate (widths.map fun width => repeated (width + 2) rule.along)
    ++ rule.right

/-- A line of a cell in a column of this width. -/
def pad (width : Nat) (line : String) : String :=
  " " ++ line ++ repeated (width - Text.width line) " " ++ " "

/-- The lines of a row in columns of these widths. -/
def rowLines (widths : List Nat) (row : List String) : List String :=
  let cells := row.map cellLines
  let height := (cells.map List.length).foldl max 0
  (List.range height).map fun index =>
    "│" ++ "┆".intercalate
      ((widths.zip cells).map fun (width, lines) => pad width (lines.getD index "")) ++ "│"

/-- The lines of rows with a dashed line between them. -/
def bodyLines (widths : List Nat) : List (List String) → List String
  | [] => []
  | [row] => rowLines widths row
  | row :: rest => rowLines widths row ++ between.draw widths :: bodyLines widths rest

def draw (heading : List String) (rows : List (List String)) : String :=
  let widths := columnWidths (heading :: rows)
  "\n".intercalate
    (top.draw widths :: rowLines widths heading ++ underHeading.draw widths
      :: bodyLines widths rows ++ [bottom.draw widths])

end Commissioner.Grid
