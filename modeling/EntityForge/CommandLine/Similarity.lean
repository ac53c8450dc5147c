/-!
# Similar words

How alike two words are is measured by the letters that they share: a letter of the first word is
matched with the first letter of the second that is the same, not taken yet, and near enough by its
place. What counts is the part of the letters of each word that are matched and the part of the
matched letters that stand in the same order.
-/

namespace EntityForge.CommandLine

/-- A likeness between none and one, as a fraction. -/
structure Likeness where
  /-- The numerator. -/
  num : Nat
  /-- The denominator. -/
  den : Nat
  deriving DecidableEq, Repr

namespace Likeness

/-- Whether a likeness is below another. -/
def isBelow (a b : Likeness) : Bool :=
  a.num * b.den < b.num * a.den

/-- Whether a likeness is enough to speak of. -/
def isEnough (a : Likeness) : Bool :=
  isBelow ⟨7, 10⟩ a

end Likeness

/-- The places of the letters of a word that are matched, in the order of the letters that match
them. The letters to match come with their places; `taken` holds the places matched before. -/
def matchedPlaces (reach : Nat) (word : List (Nat × Char)) (taken : List Nat) :
    List (Nat × Char) → List (Nat × Nat)
  | [] => []
  | (i, c) :: rest =>
    let near := word.find? fun (j, d) =>
      c == d && i ≤ j + reach && j ≤ i + reach && !taken.contains j
    match near with
    | some (j, _) => (i, j) :: matchedPlaces reach word (j :: taken) rest
    | none => matchedPlaces reach word taken rest

/-- The letters of a word with their places. -/
def placed (word : List Char) : List (Nat × Char) :=
  word.mapIdx fun i c => (i, c)

/-- How alike two words are. -/
def likeness (first second : String) : Likeness :=
  let a := first.toList
  let b := second.toList
  if a.isEmpty && b.isEmpty then ⟨1, 1⟩
  else
    let reach := max a.length b.length / 2 - 1
    let pairs := matchedPlaces reach (placed b) [] (placed a)
    let m := pairs.length
    if m = 0 then ⟨0, 1⟩
    else
      let inFirst := (placed a).filter fun (i, _) => pairs.any (·.1 == i)
      let inSecond := (placed b).filter fun (j, _) => pairs.any (·.2 == j)
      let swapped := (List.zip inFirst inSecond).countP fun (x, y) => x.2 != y.2
      let t := swapped / 2
      ⟨m * b.length * m + m * a.length * m + (m - t) * a.length * b.length,
        3 * a.length * b.length * m⟩

/-- The words that are like a word, the one most like it last. -/
def similarWords (word : String) (words : List String) : List String :=
  let scored := (words.map fun w => (likeness word w, w)).filter fun (l, _) => l.isEnough
  (scored.mergeSort fun x y => !y.1.isBelow x.1).map (·.2)

/-- The word most like a word. -/
def mostSimilar? (word : String) (words : List String) : Option String :=
  (similarWords word words).getLast?

end EntityForge.CommandLine
