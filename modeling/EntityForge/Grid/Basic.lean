import EntityForge.Grid.Style

/-!
# Grids of text

A grid shows rows of texts in columns under a heading, inside a frame, on a page of fixed width.
Each column has a heading, a bound on its width and a side that its texts stand at.
-/

namespace EntityForge.Grid

/-- The side of a column that its texts stand at. -/
inductive Alignment
  /-- Texts stand at the left. -/
  | left
  /-- Texts stand in the middle. -/
  | center
  /-- Texts stand at the right. -/
  | right
  deriving DecidableEq, Repr

/-- A bound on the width of a column, blanks at its sides included. -/
inductive Bound
  /-- Any width will do. -/
  | free
  /-- The column is at least so wide. -/
  | atLeast (width : Nat)
  /-- The column takes at most so much of every hundred of what lies inside the frame. -/
  | atMostPercent (share : Nat)
  deriving DecidableEq, Repr

/-- A column of a grid. -/
structure Column where
  /-- The heading. -/
  heading : String
  /-- The bound on the width. -/
  bound : Bound := .free
  /-- The side that texts stand at. -/
  alignment : Alignment := .left
  deriving DecidableEq, Repr

/-- A line across a grid. -/
structure Line where
  /-- The sign at its left end. -/
  left : Char
  /-- The sign that it is made of. -/
  stroke : Char
  /-- The sign where it meets a line between columns. -/
  joint : Char
  /-- The sign at its right end. -/
  right : Char
  deriving DecidableEq, Repr

/-- The lines around and inside a grid. -/
structure Frame where
  /-- The line above the headings. -/
  top : Line := ⟨'╭', '─', '┬', '╮'⟩
  /-- The line between the headings and the rows. -/
  underHeadings : Line := ⟨'╞', '═', '╪', '╡'⟩
  /-- The line between two rows, if there is one. -/
  betweenRows : Option Line
  /-- The line below the rows. -/
  bottom : Line := ⟨'╰', '─', '┴', '╯'⟩
  /-- The sign at both sides. -/
  side : Char := '│'
  /-- The sign between two columns. -/
  betweenColumns : Char
  deriving DecidableEq, Repr

/-- The frame with no lines between rows. -/
def Frame.condensed : Frame := { betweenRows := none, betweenColumns := '┆' }

/-- The frame with a line between any two rows. -/
def Frame.ruled : Frame := { betweenRows := some ⟨'├', '─', '┼', '┤'⟩, betweenColumns := '│' }

end EntityForge.Grid

namespace EntityForge

/-- A grid of text. -/
structure Grid where
  /-- The lines around and inside the grid. -/
  frame : Grid.Frame
  /-- The width of the page. -/
  pageWidth : Nat
  /-- Whether the grid takes the whole page even if its texts need less. -/
  fillsPage : Bool := false
  /-- The columns. -/
  columns : List Grid.Column
  /-- The rows, each with a text for every column. -/
  rows : List (List String)
  deriving DecidableEq, Repr

namespace Grid

/-- The headings and the texts of the rows below them. -/
def allRows (g : Grid) : List (List String) :=
  g.columns.map (·.heading) :: g.rows

/-- The lines of a text, as its line feeds divide it, with their styles. -/
def linesOf (text : String) : List (List Char) :=
  styled (text.toList.splitOnP (· == '\n'))

end Grid

end EntityForge
