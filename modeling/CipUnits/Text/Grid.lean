import CipUnits.Text.Cluster

/-!
# `CipUnits.Text.Grid` — tables drawn with box characters

A grid has a heading and rows of cells, each cell one line of text. Every column is as wide as its
widest cell, measured in terminal columns, with one space on either side; a double line separates the
heading and a dashed line the rows.

## Contents
- `Grid` — heading and rows; `Grid.widths` — the width of each column.
- `Rule` — the four characters of a horizontal line; `Grid.lines` — the drawing.
-/

namespace CipUnits.Text

/-- A table: the names of its columns and its rows of cells. -/
structure Grid where
  heading : List String
  rows : List (List String)

/-- The characters of one horizontal line: left end, body, crossing and right end. -/
structure Rule where
  left : String
  body : Char
  crossing : String
  right : String

/-- The line above the heading. -/
def Rule.top : Rule := ⟨"┌", '─', "┬", "┐"⟩

/-- The line below the heading. -/
def Rule.heading : Rule := ⟨"╞", '═', "╪", "╡"⟩

/-- The line between two rows. -/
def Rule.between : Rule := ⟨"├", '╌', "┼", "┤"⟩

/-- The line below the last row. -/
def Rule.bottom : Rule := ⟨"└", '─', "┴", "┘"⟩

/-- A horizontal line across columns of the given widths. -/
def Rule.draw (rule : Rule) (widths : List Nat) : String :=
  let spans := widths.map fun width => String.ofList (List.replicate (width + 2) rule.body)
  rule.left ++ rule.crossing.intercalate spans ++ rule.right

namespace Grid

/-- The greater of two widths in each column. -/
def widest : List Nat → List Nat → List Nat
  | a :: as, b :: bs => max a b :: widest as bs
  | [], bs => bs
  | as, [] => as

/-- The width of each column: that of its widest cell. -/
def widths (grid : Grid) : List Nat :=
  grid.rows.foldl (fun sofar row => widest sofar (row.map columns)) (grid.heading.map columns)

/-- One cell, with a space on either side, filled up to the width of its column. -/
def cell (width : Nat) (text : String) : String :=
  " " ++ text ++ String.ofList (List.replicate (width - columns text + 1) ' ')

/-- One line of cells. -/
def row (widths : List Nat) (cells : List String) : String :=
  "│" ++ "┆".intercalate (List.zipWith cell widths cells) ++ "│"

/-- The lines of the drawing, from the top line to the bottom line. -/
def lines (grid : Grid) : List String :=
  let widths := grid.widths
  [Rule.top.draw widths, row widths grid.heading, Rule.heading.draw widths]
    ++ (grid.rows.map (row widths)).intersperse (Rule.between.draw widths)
    ++ [Rule.bottom.draw widths]

end Grid

end CipUnits.Text
