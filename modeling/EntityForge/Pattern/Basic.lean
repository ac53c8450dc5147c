import EntityForge.Pattern.CodeSet

/-!
# Patterns

A pattern describes texts: characters of certain sets one after another, with choices, repetitions
and demands on the place. Where a pattern leaves a choice it has a preference, and the first match
of a text is the one that begins earliest and, of those, the one preferred.

A text is matched by a pattern if its first match ends where the text ends. What is read after the
beginning of the text is kept as a list of what is still to be matched, the preferred one first. A
pattern that has come to its end makes all that is less preferred idle.
-/

namespace EntityForge

/-- A demand on a place in a text. -/
inductive Anchor
  /-- The text begins here. -/
  | textStart
  /-- The text ends here. -/
  | textEnd
  /-- A line begins here. -/
  | lineStart
  /-- A line ends here. -/
  | lineEnd
  /-- A line begins here, where a carriage return also ends lines. -/
  | returnStart
  /-- A line ends here, where a carriage return also ends lines. -/
  | returnEnd
  /-- A word begins or ends here. -/
  | wordEdge
  /-- No word begins or ends here. -/
  | noWordEdge
  /-- A word begins here. -/
  | wordStart
  /-- A word ends here. -/
  | wordEnd
  deriving DecidableEq, Repr

/-- Whether a character belongs to a word. -/
def isWordLetter (c : Char) : Bool :=
  c.isAlphanum || c == '_'

/-- Whether a place between two characters, or at an end of the text, meets a demand. -/
def Anchor.holds (before after : Option Char) : Anchor → Bool
  | textStart => before.isNone
  | textEnd => after.isNone
  | lineStart => before.all (· == '\n')
  | lineEnd => after.all (· == '\n')
  | returnStart => before.all fun b => b == '\n' || b == '\r' && after != some '\n'
  | returnEnd => after.all fun a => a == '\r' || a == '\n' && before != some '\r'
  | wordEdge => before.any isWordLetter != after.any isWordLetter
  | noWordEdge => before.any isWordLetter == after.any isWordLetter
  | wordStart => !before.any isWordLetter && after.any isWordLetter
  | wordEnd => before.any isWordLetter && !after.any isWordLetter

/-- A pattern. -/
inductive Pattern
  /-- The empty text. -/
  | empty
  /-- One character of a set. -/
  | one (set : CodeSet)
  /-- The empty text, at certain places. -/
  | anchor (a : Anchor)
  /-- One pattern after another. -/
  | seq (first second : Pattern)
  /-- One of two patterns, the first of them by preference. -/
  | either (first second : Pattern)
  /-- A pattern any number of times: as often as possible by preference, or as seldom. -/
  | repeated (often : Bool) (p : Pattern)
  deriving DecidableEq, Repr

/-- A way to go on: with a character of a set, and then a pattern. -/
abbrev Way := CodeSet × Pattern

namespace Pattern

/-- One pattern after another, where nothing needs to be said of the empty text. -/
def next (p q : Pattern) : Pattern :=
  if p = empty then q else seq p q

/-- The patterns of a list one after another. -/
def seqOf (ps : List Pattern) : Pattern :=
  ps.foldr next empty

/-- One of some patterns, the earlier ones by preference. -/
def eitherOf : List Pattern → Pattern
  | [] => empty
  | [p] => p
  | p :: ps => either p (eitherOf ps)

/-- A pattern once or not at all. -/
def optional (often : Bool) (p : Pattern) : Pattern :=
  if often then either p empty else either empty p

/-- A pattern at least once. -/
def repeatedOnce (often : Bool) (p : Pattern) : Pattern :=
  seq p (repeated often p)

/-- The ways to go on with a pattern at a place, the preferred ones first. Nothing in place of a way
says that the pattern can end there. -/
def ways (before after : Option Char) : Pattern → List (Option Way)
  | empty => [none]
  | one set => [some (set, empty)]
  | anchor a => if a.holds before after then [none] else []
  | seq p q =>
    let rest := ways before after q
    (ways before after p).flatMap fun
      | some (set, left) => [some (set, left.next q)]
      | none => rest
  | either p q => ways before after p ++ ways before after q
  | repeated often p =>
    let inside := (ways before after p).map fun w =>
      w.map fun (set, left) => (set, left.next (repeated often p))
    if often then inside ++ [none] else none :: inside

/-- The ways to go on with several patterns, the preferred ones first. -/
def waysOf (before after : Option Char) (ps : List Pattern) : List (Option Way) :=
  ps.flatMap fun p => p.ways before after

/-- The ways that are preferred to an end. -/
def preferred : List (Option Way) → List Way
  | some w :: rest => w :: preferred rest
  | _ => []

/-- Whether the first match of some patterns, the preferred ones first, ends with the text. -/
def endsWith (before : Option Char) (ps : List Pattern) : List Char → Bool
  | [] => (waysOf before none ps).contains none
  | c :: cs =>
    let left := (preferred (waysOf before (some c) ps)).filter fun (set, _) => set.holds c
    endsWith (some c) (left.map (·.2)).eraseDups cs

/-- Any text, the shorter ones by preference. -/
def anything : Pattern :=
  repeated false (one ⟨[(0, CodeSet.lastCode)]⟩)

/-- Whether the first match of a pattern in a text ends with the text. -/
def matchesEnd (p : Pattern) (text : String) : Bool :=
  endsWith none [anything.next p] text.toList

end Pattern

end EntityForge
