import EntityForge.Grid.Wrapping

/-!
# Widths of columns

The page has room for so many columns of text once the frame and a blank at each side of every
column are taken off. The room is given out in passes. In a pass the columns that have no width yet
are looked at from left to right, each with its even share of the room that is left, and a rule may
fix the width of the column: first the narrow columns that must have a least width, then those whose
even share is below it, then those that need no more than their share or reach their greatest width,
then those that come out much narrower than their share once their texts are wrapped. What is left
goes to the other columns in even parts, or to all columns if none is left and the grid fills the
page.
-/

namespace EntityForge.Grid

/-- The blanks at the sides of a column. -/
def sideBlanks : Nat := 2

/-- A column whose width is to be found. -/
structure Slot where
  /-- The bound on the width. -/
  bound : Bound
  /-- The lines of the texts, the heading among them. -/
  lines : List (List Char)
  /-- The width of the widest line. -/
  natural : Nat
  /-- The width, once it is fixed. -/
  fixed : Option Nat := none
  deriving DecidableEq, Repr

/-- The width of the widest line. -/
def widest (lines : List (List Char)) : Nat :=
  (lines.map shownWidth).foldl max 0

/-- The room that is left and the columns. -/
structure Sizing where
  /-- The room that is left for text. -/
  room : Nat
  /-- The columns, from left to right. -/
  slots : List Slot
  deriving DecidableEq, Repr

/-- The width for text of a column that has a width with its blanks. -/
def textWidth (outer : Nat) : Nat :=
  max 1 (outer - sideBlanks)

/-- The number of columns that have no width yet. -/
def unfixed (slots : List Slot) : Nat :=
  slots.countP (·.fixed.isNone)

/-- A rule that may fix the width of a column whose even share is known. -/
abbrev Rule := Nat → Slot → Option Nat

namespace Sizing

/-- Looks at columns from left to right, with the number of all columns that have no width yet. -/
def passFrom (rule : Rule) (room count : Nat) : List Slot → Sizing
  | [] => ⟨room, []⟩
  | slot :: rest =>
    match if slot.fixed.isSome then none else rule (room / count) slot with
    | some w =>
      let s := passFrom rule (room - w) (count - 1) rest
      { s with slots := { slot with fixed := some w } :: s.slots }
    | none =>
      let s := passFrom rule room count rest
      { s with slots := slot :: s.slots }

/-- One pass of a rule. -/
def pass (rule : Rule) (s : Sizing) : Sizing :=
  passFrom rule s.room (unfixed s.slots) s.slots

/-- As many passes of a rule as there are columns. A pass that fixes nothing is the last to matter.
-/
def passes (rule : Rule) (s : Sizing) : Sizing :=
  s.slots.foldl (fun s _ => s.pass rule) s

/-- The parts of an amount, one for each of a number of takers, the earlier ones the larger. -/
def evenParts (amount takers : Nat) : List Nat :=
  (List.range takers).map fun i => amount / takers + if i < amount % takers then 1 else 0

/-- The widths of columns when those without one get parts in order. -/
def settled : List Slot → List Nat → List Nat
  | [], _ => []
  | slot :: rest, parts =>
    match slot.fixed, parts with
    | some w, _ => w :: settled rest parts
    | none, part :: parts => part :: settled rest parts
    | none, [] => 0 :: settled rest []

/-- The widths of the columns once all rules have been followed. -/
def widths (fillsPage : Bool) (s : Sizing) : List Nat :=
  let count := unfixed s.slots
  if 0 < count then settled s.slots (evenParts s.room count)
  else
    let fixed := s.slots.filterMap (·.fixed)
    if fillsPage then List.zipWith (· + ·) fixed (evenParts s.room fixed.length) else fixed

end Sizing

/-! ### The rules -/

/-- A column that must have a least width and needs no more has that width. -/
def fitsLeast : Rule := fun _ slot =>
  match slot.bound with
  | .atLeast w => if slot.natural + sideBlanks ≤ w then some (textWidth w) else none
  | _ => none

/-- A column whose even share is below its least width has the least width. -/
def keepsLeast : Rule := fun share slot =>
  match slot.bound with
  | .atLeast w => if share < w then some (textWidth w) else none
  | _ => none

/-- A column whose share reaches its greatest width has that width if it needs it; one that needs no
more than its share has what it needs. -/
def fitsShare (inside : Nat) : Rule := fun share slot =>
  let needed := if slot.natural ≤ share then some slot.natural else none
  match slot.bound with
  | .atMostPercent p =>
    let most := inside * p / 100
    if most ≤ share + sideBlanks ∧ most ≤ slot.natural + sideBlanks then some (textWidth most)
    else needed
  | _ => needed

/-- A column that leaves at least three columns of its share free once its texts are wrapped has the
width of its widest wrapped line. -/
def fitsWrapped : Rule := fun share slot =>
  let w := widest (slot.lines.flatMap (wrap share))
  if 3 ≤ share - w then some w else none

/-! ### The widths of a grid -/

/-- The columns as they are before any has a width. -/
def slots (g : Grid) : List Slot :=
  g.columns.mapIdx fun i c =>
    let lines := (g.allRows.filterMap (·[i]?)).flatMap linesOf
    { bound := c.bound, lines, natural := widest lines }

/-- The width of the page inside the frame. -/
def inside (g : Grid) : Nat :=
  g.pageWidth - (g.columns.length + 1)

/-- The widths of the columns, without the blanks at their sides. -/
def widths (g : Grid) : List Nat :=
  let start : Sizing := ⟨g.inside - sideBlanks * g.columns.length, g.slots⟩
  ((((start.pass fitsLeast).pass keepsLeast).passes (fitsShare g.inside)).passes fitsWrapped).widths
    g.fillsPage

end EntityForge.Grid
