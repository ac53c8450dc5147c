import EntityForge.Grid.Basic

/-!
# Wrapping

A line of text that is too wide for its column is broken at blanks. A word goes to the current line
if it fits there, and to the next line if it fits there as a whole. A word wider than the column is
cut: its first part fills the current line, unless at most two columns are left on it. A line with
less than two columns left is full.
-/

namespace EntityForge.Grid

/-- The number of columns left on a line that are too few to put anything there. -/
def tooFew : Nat := 2

/-- The lines that a finished line gives: none if it is empty. -/
def closed (line : List Char) : List (List Char) :=
  if line.isEmpty then [] else [line]

/-- Whether a line in a column of some width is full. -/
def isFull (columns : Nat) (line : List Char) : Bool :=
  columns - tooFew < shownWidth line

/-- The number of characters in words, and of the words themselves. -/
def wordsSize (words : List (List Char)) : Nat :=
  words.foldr (fun word size => word.length + 1 + size) 0

/-- The lines that words come to behind a current line, in a column of some width. A word that
cannot be cut stays whole. -/
def wrapWords (columns : Nat) (line : List Char) : List (List Char) → List (List Char)
  | [] => closed line
  | word :: rest =>
    let gap := if line.isEmpty then 0 else 1
    let joined := if line.isEmpty then [] else line ++ [' ']
    let free := columns - shownWidth line - gap
    if shownWidth word + shownWidth line + gap ≤ columns then
      let line' := joined ++ word
      if isFull columns line' then line' :: wrapWords columns [] rest
      else wrapWords columns line' rest
    else if line ≠ [] ∧ free ≤ tooFew then line :: wrapWords columns [] (word :: rest)
    else if columns < shownWidth word then
      let (head, tail) := if line.isEmpty then cutSome free word else cutWord free word
      let line' := joined ++ head
      if tail.length < word.length then
        if isFull columns line' then line' :: wrapWords columns [] (tail :: rest)
        else wrapWords columns line' (tail :: rest)
      else (joined ++ word) :: wrapWords columns [] rest
    else if isFull columns word then line :: word :: wrapWords columns [] rest
    else line :: wrapWords columns word rest
  termination_by words => 2 * wordsSize words + min 1 line.length
  decreasing_by
    all_goals simp only [wordsSize, List.foldr_cons, List.length_nil]
    all_goals try omega
    have : line.length ≠ 0 := by simp_all
    omega

/-- The lines that a line of text comes to in a column of some width. -/
def wrap (columns : Nat) (line : List Char) : List (List Char) :=
  if shownWidth line ≤ columns then [line]
  else wrapWords columns [] (styledWords line)

/-- The lines that a text comes to in a column of some width. -/
def wrapText (columns : Nat) (text : String) : List (List Char) :=
  (linesOf text).flatMap (wrap columns)

end EntityForge.Grid
