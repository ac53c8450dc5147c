import EntityForge.Grid.Sizing

/-!
# Drawing a grid

Every row takes as many lines as the highest of its cells; the other cells are filled up with blanks
from below.
-/

namespace EntityForge.Grid

/-- Some blanks. -/
def blanks (n : Nat) : List Char :=
  List.replicate n ' '

/-- A line of text at its side of a column. -/
def Alignment.place (a : Alignment) (columns : Nat) (line : List Char) : List Char :=
  let free := columns - shownWidth line
  match a with
  | left => line ++ blanks free
  | right => blanks free ++ line
  | center => blanks (free - free / 2) ++ line ++ blanks (free / 2)

/-- The lines of a cell, each with a blank at both sides. -/
def cellLines (column : Column) (columns : Nat) (text : String) : List (List Char) :=
  (wrapText columns text).map fun line => ' ' :: column.alignment.place columns line ++ [' ']

/-- The cells of a row with their lines. -/
def rowCells (g : Grid) (widths : List Nat) (row : List String) : List (List (List Char)) :=
  (g.columns.zip widths).mapIdx fun i (column, columns) =>
    cellLines column columns (row.getD i "")

/-- A line across the grid. -/
def Line.text (l : Line) (widths : List Nat) : List Char :=
  let strokes := widths.map fun w => List.replicate (w + sideBlanks) l.stroke
  l.left :: [l.joint].intercalate strokes ++ [l.right]

/-- The lines of a row. -/
def rowLines (g : Grid) (widths : List Nat) (row : List String) : List (List Char) :=
  let cells := g.rowCells widths row
  let height := (cells.map List.length).foldl max 0
  (List.range height).map fun i =>
    let parts := (cells.zip widths).map fun (lines, w) => lines.getD i (blanks (w + sideBlanks))
    g.frame.side :: [g.frame.betweenColumns].intercalate parts ++ [g.frame.side]

/-- The lines of the rows below the headings. -/
def bodyLines (g : Grid) (widths : List Nat) : List (List Char) :=
  let between := (g.frame.betweenRows.map (·.text widths)).toList
  between.intercalate (g.rows.map (g.rowLines widths))

/-- The lines of a grid. -/
def drawn (g : Grid) : List (List Char) :=
  let widths := g.widths
  [g.frame.top.text widths] ++ g.rowLines widths (g.columns.map (·.heading)) ++
    [g.frame.underHeadings.text widths] ++ g.bodyLines widths ++ [g.frame.bottom.text widths]

/-- The text of a grid, without a line end behind it. -/
def text (g : Grid) : String :=
  String.ofList (['\n'].intercalate g.drawn)

end EntityForge.Grid
