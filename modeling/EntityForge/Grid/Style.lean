import EntityForge.Text.Escape
import EntityForge.Text.Width

/-!
# Styled lines

A line can hold control sequences, which set the style of what follows until the style is reset.
They take no room. Where a text is divided, each part sets the styles again that were set before it
and resets them at its end, so that nothing else in the grid takes them on.
-/

namespace EntityForge.Grid

open Text (Stretch)

/-- The control sequence that resets the style. -/
def resetStyle : List Char := [Text.escape, '[', '0', 'm']

/-- The columns that a line takes. -/
def shownWidth (line : List Char) : Nat :=
  Text.width ((Text.stretches line).flatMap Stretch.shown)

/-- The control sequences in force behind one more. -/
def inForce (active : List (List Char)) (control : List Char) : List (List Char) :=
  if control = resetStyle then [] else active ++ [control]

/-- The parts of a divided text with their styles, given the control sequences in force before it.
-/
def styledFrom (active : List (List Char)) : List (List Char) → List (List Char)
  | [] => []
  | line :: rest =>
    let left := ((Text.stretches line).filterMap Stretch.control?).foldl inForce active
    (active.flatten ++ line ++ if left.isEmpty then [] else resetStyle) :: styledFrom left rest

/-- The parts of a divided text with their styles. -/
def styled (lines : List (List Char)) : List (List Char) :=
  styledFrom [] lines

/-- Puts a piece before the first of some parts. -/
def joinFirst (cs : List Char) : List (List Char) → List (List Char)
  | [] => [cs]
  | part :: rest => (cs ++ part) :: rest

/-- The parts of a line between blanks that are not part of a control sequence. -/
def blankParts : List Stretch → List (List Char)
  | [] => [[]]
  | .control cs :: rest => joinFirst cs (blankParts rest)
  | .plain cs :: rest =>
    let parts := cs.splitOnP (· == ' ')
    parts.dropLast ++ joinFirst (parts.getLastD []) (blankParts rest)

/-- The words of a line with their styles. -/
def styledWords (line : List Char) : List (List Char) :=
  styled (blankParts (Text.stretches line))

/-- The number of characters in the first clusters of a text that take at most some columns. -/
def fittingChars (columns : Nat) : List (List Char) → Nat
  | [] => 0
  | k :: rest =>
    let w := Text.width k
    if w ≤ columns then k.length + fittingChars (columns - w) rest else 0

/-- How far the cutting of a word has come. -/
structure Cut where
  /-- What stands before the cut, up to its last plain text. -/
  head : List Char := []
  /-- The control sequences behind the last plain text. -/
  trailing : List Char := []
  /-- Whether control sequences are in force at the last plain text. -/
  isStyled : Bool := false
  /-- The control sequences in force. -/
  active : List (List Char) := []

/-- The cut with one more control sequence before it. -/
def Cut.addControl (c : Cut) (control : List Char) : Cut :=
  { c with trailing := c.trailing ++ control, active := inForce c.active control }

/-- The cut with more plain text before it. -/
def Cut.addPlain (c : Cut) (cs : List Char) : Cut :=
  { c with
    head := c.head ++ c.trailing ++ cs
    trailing := []
    isStyled := !c.active.isEmpty }

/-- Cuts a word: as much of it as takes some columns, with the style reset, and the rest with the
style set again. -/
def cutFrom (columns : Nat) (c : Cut) : List Stretch → List Char × List Char
  | [] => (c.head ++ c.trailing, [])
  | .control cs :: rest => cutFrom columns (c.addControl cs) rest
  | .plain cs :: rest =>
    let w := Text.width cs
    if w ≤ columns then cutFrom (columns - w) (c.addPlain cs) rest
    else
      let n := fittingChars columns (Text.clusters cs)
      let c := if n = 0 then c else c.addPlain (cs.take n)
      let tail := rest.flatMap fun
        | .control cs | .plain cs => cs
      (c.head ++ (if c.isStyled then resetStyle else []), c.active.flatten ++ cs.drop n ++ tail)

/-- A word cut behind what takes some columns. -/
def cutWord (columns : Nat) (word : List Char) : List Char × List Char :=
  cutFrom columns {} (Text.stretches word)

/-- A word cut as above, but with at least one character before the cut. -/
def cutSome (columns : Nat) (word : List Char) : List Char × List Char :=
  match cutWord columns word with
  | ([], c :: tail) => ([c], tail)
  | parts => parts

end EntityForge.Grid
