import EntityForge.Pattern.Basic
import EntityForge.Text.Blank

/-!
# Written characters and their classes

In a written pattern a character stands for itself, unless it has a meaning of its own; behind a
backslash such a character stands for itself, and some letters stand for what is hard to write.
Classes are written between brackets: characters, ranges of them, further classes, and operations
on what stands on both sides of two equal signs.

Modes say how characters are compared. Without the mode for all characters only ASCII characters can
be meant by a class, and then alone is it known which of them are digits, blanks and parts of words
or which belong together regardless of case.
-/

namespace EntityForge.Pattern

/-- How a pattern is to be understood. -/
structure Modes where
  /-- Whether the case of letters does not matter. -/
  anyCase : Bool := false
  /-- Whether a text has lines. -/
  lines : Bool := false
  /-- Whether the point stands for the end of a line as well. -/
  wholePoint : Bool := false
  /-- Whether repetitions that prefer to be long prefer to be short, and the other way round. -/
  swapped : Bool := false
  /-- Whether all characters can be meant, not only those of ASCII. -/
  wide : Bool := true
  /-- Whether a carriage return ends a line. -/
  returns : Bool := false
  /-- Whether blanks and remarks are passed over. -/
  spaced : Bool := false
  deriving DecidableEq, Repr

/-- What a written character stands for. -/
inductive Atom
  /-- A character. -/
  | letter (c : Char)
  /-- A set. -/
  | set (s : CodeSet)
  /-- A place. -/
  | anchor (a : Anchor)
  deriving DecidableEq, Repr

namespace Modes

/-- The last code point that can be meant. -/
def lastCode (m : Modes) : Nat :=
  if m.wide then CodeSet.lastCode else 255

/-- A set regardless of case, if the modes ask for it. -/
def folded? (m : Modes) (s : CodeSet) : Option CodeSet :=
  if !m.anyCase || s.ranges.isEmpty then some s
  else if m.wide then none
  else some s.anyCase

/-- A set that can be meant. -/
def admitted? (m : Modes) (s : CodeSet) : Option CodeSet :=
  if m.wide || s.isAscii then some s else none

/-- A class that ends, or the class of what it does not hold. -/
def closed? (m : Modes) (negated : Bool) (s : CodeSet) : Option CodeSet := do
  let s ← m.folded? s
  m.admitted? (if negated then s.complement m.lastCode else s)

/-- Passes over blanks and remarks, if the modes ask for it. -/
def skip (m : Modes) : List Char → List Char
  | [] => []
  | c :: cs =>
    if !m.spaced then c :: cs
    else if Text.isBlank c then m.skip cs
    else if c == '#' then inRemark cs
    else c :: cs
where
  /-- Passes over the rest of a remark, and what is passed over behind it. -/
  inRemark : List Char → List Char
    | [] => []
    | c :: cs => if c == '\n' then m.skip cs else inRemark cs

end Modes

/-! ### Characters behind a backslash -/

/-- The value of a hexadecimal digit. -/
def hexValue? (c : Char) : Option Nat :=
  if c.isDigit then some (c.toNat - '0'.toNat)
  else if 'a' ≤ c && c ≤ 'f' then some (c.toNat - 'a'.toNat + 10)
  else if 'A' ≤ c && c ≤ 'F' then some (c.toNat - 'A'.toNat + 10)
  else none

/-- The character that some hexadecimal digits stand for. -/
def hexLetter? (digits : List Char) : Option Char := do
  let code := (← digits.mapM hexValue?).foldl (fun n d => 16 * n + d) 0
  if code < 0xD800 || 0xE000 ≤ code && code ≤ CodeSet.lastCode then some (Char.ofNat code)
  else none

/-- The class that a letter behind a backslash stands for. -/
def letterClass? : Char → Option CodeSet
  | 'd' => some (.between '0' '9')
  | 's' => some ⟨[(9, 13), (32, 32)]⟩
  | 'w' => some (.ofRanges [(48, 57), (65, 90), (95, 95), (97, 122)])
  | _ => none

/-- The place that a letter behind a backslash stands for. -/
def letterAnchor? : Char → Option Anchor
  | 'A' => some .textStart
  | 'z' => some .textEnd
  | 'b' => some .wordEdge
  | 'B' => some .noWordEdge
  | '<' => some .wordStart
  | '>' => some .wordEnd
  | _ => none

/-- The control character that a letter behind a backslash stands for. -/
def control? : Char → Option Char
  | 'a' => some '\x07'
  | 'f' => some '\x0C'
  | 't' => some '\t'
  | 'n' => some '\n'
  | 'r' => some '\r'
  | 'v' => some '\x0B'
  | _ => none

/-- How many hexadecimal digits follow a letter behind a backslash. -/
def hexLength? : Char → Option Nat
  | 'x' => some 2
  | 'u' => some 4
  | 'U' => some 8
  | _ => none

/-- What stands behind a backslash, and what follows it. Classes and the edges of words are known
for ASCII characters only. -/
def escaped? (m : Modes) : List Char → Option (Atom × List Char)
  | [] => none
  | c :: rest =>
    match hexLength? c, letterClass? c.toLower, letterAnchor? c with
    | some n, _, _ => do
      let digits := rest.take n
      if digits.length < n then none
      let l ← hexLetter? digits
      if c == 'x' && !m.wide && 128 ≤ l.toNat then none
      return (.letter l, rest.drop n)
    | _, some s, _ =>
      if m.wide || c.isUpper then none else some (.set s, rest)
    | _, _, some p =>
      if m.wide && p != .textStart && p != .textEnd then none else some (.anchor p, rest)
    | none, none, none =>
      match control? c with
      | some l => some (.letter l, rest)
      | none => if c.toNat < 128 && !c.isAlphanum then some (.letter c, rest) else none

/-! ### Classes -/

/-- The class of a name. -/
def namedClass? : String → Option CodeSet
  | "alnum" => some (.ofRanges [(48, 57), (65, 90), (97, 122)])
  | "alpha" => some (.ofRanges [(65, 90), (97, 122)])
  | "ascii" => some ⟨[(0, 127)]⟩
  | "blank" => some (.ofRanges [(9, 9), (32, 32)])
  | "cntrl" => some (.ofRanges [(0, 31), (127, 127)])
  | "digit" => some (.between '0' '9')
  | "graph" => some (.between '!' '~')
  | "lower" => some (.between 'a' 'z')
  | "print" => some (.between ' ' '~')
  | "punct" => some (.ofRanges [(33, 47), (58, 64), (91, 96), (123, 126)])
  | "space" => some (.ofRanges [(9, 13), (32, 32)])
  | "upper" => some (.between 'A' 'Z')
  | "word" => some (.ofRanges [(48, 57), (65, 90), (95, 95), (97, 122)])
  | "xdigit" => some (.ofRanges [(48, 57), (65, 70), (97, 102)])
  | _ => none

/-- A class by its name between colons, whether it is negated, and what follows its bracket. -/
def named? (cs : List Char) : Option (CodeSet × Bool × List Char) := do
  let ':' :: inner := cs | none
  let (negated, inner) := match inner with
    | '^' :: rest => (true, rest)
    | _ => (false, inner)
  let ':' :: ']' :: rest := inner.dropWhile (· != ':') | none
  return (← namedClass? (String.ofList (inner.takeWhile (· != ':'))), negated, rest)

/-- A class that has begun and not ended. -/
structure OpenClass where
  /-- What the class around it holds so far. -/
  outer : CodeSet
  /-- Whether it is the class of what it does not hold. -/
  negated : Bool
  /-- An operation that waits for its second operand, with the first. -/
  waiting : Option ((CodeSet → CodeSet → CodeSet) × CodeSet) := none

/-- The operation that two equal signs stand for. -/
def operation? : List Char → Option ((CodeSet → CodeSet → CodeSet) × List Char)
  | '&' :: '&' :: rest => some (CodeSet.inter, rest)
  | '-' :: '-' :: rest => some (CodeSet.minus, rest)
  | '~' :: '~' :: rest => some (CodeSet.exclusive, rest)
  | _ => none

/-- What a class holds at a sign or at its end: the waiting operation is carried out. -/
def OpenClass.settled? (m : Modes) (o : OpenClass) (current : CodeSet) : Option CodeSet :=
  match o.waiting with
  | none => some current
  | some (operate, first) => return operate (← m.folded? first) (← m.folded? current)

/-- The beginning of a class behind its bracket: whether it is negated, the dashes or the bracket
that stand for themselves there, and what follows. -/
def classStart (m : Modes) (cs : List Char) : Bool × CodeSet × List Char :=
  let (negated, cs) := match m.skip cs with
    | '^' :: rest => (true, m.skip rest)
    | cs => (false, cs)
  match cs with
  | '-' :: rest => (negated, .single '-', dashes rest)
  | ']' :: rest => (negated, .single ']', rest)
  | _ => (negated, .empty, cs)
where
  /-- Passes over dashes. -/
  dashes : List Char → List Char :=
    List.dropWhile fun c => c == '-' || m.spaced && Text.isBlank c

/-- A character of a class, and what follows it. -/
def classAtom? (m : Modes) : List Char → Option (Atom × List Char)
  | '\\' :: rest => escaped? m rest
  | c :: rest => some (.letter c, rest)
  | [] => none

/-- A character or a range of characters in a class, and what follows. -/
def classItem? (m : Modes) (cs : List Char) : Option (CodeSet × List Char) := do
  match ← classAtom? m cs with
  | (.anchor _, _) => none
  | (first, rest) =>
    let rest := m.skip rest
    let behind := m.skip rest.tail
    if rest.head? != some '-' || behind.head? == some ']' || behind.head? == some '-' then
      match first with
      | .letter c => return (← m.admitted? (.single c), rest)
      | .set s => return (s, rest)
      | .anchor _ => none
    else
      match first, ← classAtom? m behind with
      | .letter a, (.letter b, rest) =>
        if b < a then none else return (← m.admitted? (.between a b), rest)
      | _, _ => none

/-- How far the reading of a class has come. -/
structure ClassReading where
  /-- The classes that have begun and not ended, the innermost first. -/
  stack : List OpenClass
  /-- What the innermost of them holds so far, or the class, where none is left. -/
  current : CodeSet
  /-- What follows. -/
  rest : List Char

namespace ClassReading

/-- Reads on inside an open class. -/
def inside? (m : Modes) (top : OpenClass) (below : List OpenClass) (current : CodeSet) (c : Char)
    (rest : List Char) : Option ClassReading :=
  match c, named? rest, operation? (c :: rest) with
  | '[', some (s, negated, rest), _ => do
    return ⟨top :: below, current.union (← m.closed? negated s), rest⟩
  | '[', none, _ =>
    let (negated, start, rest) := classStart m rest
    some ⟨{ outer := current, negated } :: top :: below, start, rest⟩
  | ']', _, _ => do
    let s ← m.closed? top.negated (← top.settled? m current)
    return ⟨below, top.outer.union s, rest⟩
  | _, _, some (operate, rest) => do
    let first ← top.settled? m current
    return ⟨{ top with waiting := some (operate, first) } :: below, .empty, rest⟩
  | _, _, none => do
    let (s, rest) ← classItem? m (c :: rest)
    return ⟨top :: below, current.union s, rest⟩

/-- Reads on up to the end of the outermost class. -/
def finish? (m : Modes) (r : ClassReading) : Option (CodeSet × List Char) :=
  match r.stack, m.skip r.rest with
  | [], _ => some (r.current, r.rest)
  | top :: below, c :: rest =>
    match inside? m top below r.current c rest with
    | some r' => if r'.rest.length < r.rest.length then r'.finish? m else none
    | none => none
  | _, [] => none
termination_by r.rest.length

end ClassReading

/-- The class that begins behind a bracket, and what follows it. -/
def class? (m : Modes) (cs : List Char) : Option (CodeSet × List Char) :=
  let (negated, start, rest) := classStart m cs
  ClassReading.finish? m ⟨[{ outer := .empty, negated }], start, rest⟩

end EntityForge.Pattern
