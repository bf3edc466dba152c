import Exposure.Text.Columns

/-!
# Tables

A table is drawn with box characters: a rounded frame, a double line under the heading, a
dashed line between rows and a dashed bar between columns. Every column is as wide as its
widest line, with a blank on either side; a cell may hold several lines, and what a row lacks
is blank. A table without columns shrinks to its frame.
-/

namespace Exposure

/-- A table: its heading, if it has one, and its rows of cells. -/
structure Table where
  heading : Option (List String)
  rows : List (List String)
  deriving DecidableEq, Repr

namespace Table

/-- The lines of a cell. -/
def cellLines (cell : String) : List String := cell.splitOn "\n"

/-- The columns that a cell needs on a terminal. -/
def cellWidth (cell : String) : Nat := ((cellLines cell).map Text.width).foldl max 0

/-- All rows, the heading first. -/
def allRows (table : Table) : List (List String) := table.heading.toList ++ table.rows

/-- The widths of the columns, as many as the longest row has cells. No column is narrower than
one character. -/
def columnWidths (table : Table) : List Nat :=
  let count := (table.allRows.map (·.length)).foldl max 0
  (List.range count).map fun column ↦
    (table.allRows.map fun row ↦ cellWidth (row.getD column "")).foldl max 1

/-- The pieces that a line across the table is made of. -/
structure Rule where
  left : String
  dash : String
  crossing : String
  right : String

/-- The line above everything. -/
def topRule : Rule := ⟨"╭", "─", "┬", "╮"⟩

/-- The line under the heading. -/
def headingRule : Rule := ⟨"╞", "═", "╪", "╡"⟩

/-- The line between two rows. -/
def rowRule : Rule := ⟨"├", "╌", "┼", "┤"⟩

/-- The line below everything. -/
def bottomRule : Rule := ⟨"╰", "─", "┴", "╯"⟩

/-- A text repeated. -/
def repeated (count : Nat) (text : String) : String := String.join (List.replicate count text)

/-- A line across columns of the given widths. -/
def Rule.line (rule : Rule) (widths : List Nat) : String :=
  rule.left ++ rule.crossing.intercalate (widths.map fun width ↦ repeated (width + 2) rule.dash) ++
    rule.right

/-- A text filled up to a width, with a blank on either side. -/
def padded (width : Nat) (text : String) : String :=
  " " ++ text ++ repeated (width - Text.width text) " " ++ " "

/-- The lines of a row. -/
def rowLines (widths : List Nat) (row : List String) : List String :=
  let cells := widths.zipIdx.map fun (width, column) ↦ (width, cellLines (row.getD column ""))
  let height := (cells.map (·.2.length)).foldl max 0
  (List.range height).map fun index ↦
    "│" ++ "┆".intercalate (cells.map fun (width, lines) ↦ padded width (lines.getD index "")) ++
      "│"

/-- The lines of the rows under the heading, with a line between two rows. -/
def bodyLines (widths : List Nat) : List (List String) → List String
  | [] => []
  | [row] => rowLines widths row
  | row :: rows => rowLines widths row ++ rowRule.line widths :: bodyLines widths rows

/-- The table as text, without a new line at its end. -/
def render (table : Table) : String :=
  let widths := table.columnWidths
  let heading := table.heading.elim [] fun row ↦ rowLines widths row ++ [headingRule.line widths]
  "\n".intercalate
    (topRule.line widths :: heading ++ bodyLines widths table.rows ++ [bottomRule.line widths])

end Table

end Exposure
