import EntityForge.Pattern.Class
import EntityForge.Text.Letter

/-!
# Written patterns

A written pattern is a row of parts: characters, classes, places and groups, each perhaps repeated,
with bars between the alternatives. A group stands between parentheses, and may have a name. Signs
behind a question mark set the modes for a group or for what is left of the group around them.

Counts of repetitions are not written.
-/

namespace EntityForge.Pattern

/-- The alternatives of a group, as far as they have been read. -/
structure Alternatives where
  /-- The alternatives that have ended, the latest first. -/
  ended : List Pattern := []
  /-- The parts of the one being read, the latest first. Where the modes were set there is none. -/
  parts : List (Option Pattern) := []

namespace Alternatives

/-- With one more part. -/
def add (a : Alternatives) (p : Option Pattern) : Alternatives :=
  { a with parts := p :: a.parts }

/-- The alternative being read. -/
def current (a : Alternatives) : Pattern :=
  seqOf (a.parts.reverse.filterMap id)

/-- A further alternative begins. -/
def split (a : Alternatives) : Alternatives :=
  { ended := a.current :: a.ended }

/-- All alternatives together. -/
def whole (a : Alternatives) : Pattern :=
  eitherOf (a.current :: a.ended).reverse

end Alternatives

/-- How far the reading of a pattern has come. -/
structure Draft where
  /-- The modes. -/
  modes : Modes := {}
  /-- The innermost group. -/
  inner : Alternatives := {}
  /-- The groups around it and their modes, the innermost first. -/
  outer : List (Modes × Alternatives) := []
  /-- The names of groups. -/
  names : List String := []

/-! ### Modes -/

/-- The modes with one of them set, by its letter. -/
def Modes.set? (m : Modes) (on : Bool) : Char → Option Modes
  | 'i' => some { m with anyCase := on }
  | 'm' => some { m with lines := on }
  | 's' => some { m with wholePoint := on }
  | 'U' => some { m with swapped := on }
  | 'u' => some { m with wide := on }
  | 'R' => some { m with returns := on }
  | 'x' => some { m with spaced := on }
  | _ => none

/-- The modes that letters set. Those behind a dash are switched off. -/
def Modes.with? (m : Modes) (letters : List Char) : Option Modes := do
  let on := letters.takeWhile (· != '-')
  let off := letters.drop (on.length + 1)
  let named := on ++ off
  if named.eraseDups.length != named.length then none
  if letters.contains '-' && off.isEmpty then none
  off.foldlM (fun m c => m.set? false c) (← on.foldlM (fun m c => m.set? true c) m)

/-! ### Parts -/

namespace Draft

/-- The draft with one more part. -/
def add (d : Draft) (p : Pattern) : Draft :=
  { d with inner := d.inner.add (some p) }

/-- A character as a part. -/
def letter? (d : Draft) (c : Char) : Option Draft :=
  if !d.modes.anyCase then some (d.add (.one (.single c)))
  else if d.modes.wide || 128 ≤ c.toNat then none
  else some (d.add (.one (CodeSet.single c).anyCase))

/-- The point as a part. -/
def point? (d : Draft) : Option Draft :=
  let m := d.modes
  let ends := if m.wholePoint then .empty else if m.returns then .ofRanges [(10, 10), (13, 13)]
    else .single '\n'
  (m.admitted? (CodeSet.complement m.lastCode ends)).map fun s => d.add (.one s)

/-- The beginning of the text, or of a line. -/
def start (d : Draft) : Draft :=
  d.add (.anchor (if !d.modes.lines then .textStart else if d.modes.returns then .returnStart
    else .lineStart))

/-- The end of the text, or of a line. -/
def stop (d : Draft) : Draft :=
  d.add (.anchor (if !d.modes.lines then .textEnd else if d.modes.returns then .returnEnd
    else .lineEnd))

/-- Repeats the latest part. -/
def repeat? (d : Draft) (sign : Char) (often : Bool) : Option Draft :=
  let often := often != d.modes.swapped
  match d.inner.parts with
  | some p :: before =>
    let again :=
      if sign == '?' then optional often p
      else if sign == '*' then repeated often p
      else repeatedOnce often p
    some { d with inner := { d.inner with parts := some again :: before } }
  | _ => none

/-- A group begins, with modes of its own. -/
def openGroup (d : Draft) (modes : Modes) : Draft :=
  { d with modes, inner := {}, outer := (d.modes, d.inner) :: d.outer }

/-- A group ends. -/
def closeGroup? (d : Draft) : Option Draft :=
  match d.outer with
  | (modes, around) :: outer =>
    some { d with modes, inner := around.add (some d.inner.whole), outer }
  | [] => none

/-- Whether a group can have a name. -/
def isGroupName (name : List Char) : Bool :=
  match name with
  | c :: cs =>
    (c == '_' || Text.isLetter c) &&
      cs.all fun c => Text.isLetterOrNumber c || ['_', '.', '[', ']'].contains c
  | [] => false

/-- A group begins that has a name. -/
def openNamed? (d : Draft) (cs : List Char) : Option (Draft × List Char) :=
  let name := cs.takeWhile (· != '>')
  let text := String.ofList name
  match cs.drop name.length with
  | _ :: rest =>
    if isGroupName name && !d.names.contains text then
      some ({ d.openGroup d.modes with names := text :: d.names }, rest)
    else none
  | [] => none

/-- Reads what follows the beginning of a group. A look ahead or behind is not understood. -/
def beginGroup? (d : Draft) (cs : List Char) : Option (Draft × List Char) :=
  match d.modes.skip cs with
  | '?' :: 'P' :: '<' :: rest => d.openNamed? rest
  | '?' :: '<' :: rest => d.openNamed? rest
  | '?' :: rest => do
    let letters := rest.takeWhile fun c => c != ':' && c != ')'
    let modes ← d.modes.with? letters
    match rest.drop letters.length with
    | ':' :: rest => return (d.openGroup modes, rest)
    | ')' :: rest =>
      if letters.isEmpty then none
      else return ({ d with modes, inner := d.inner.add none }, rest)
    | _ => none
  | cs => some (d.openGroup d.modes, cs)

/-- The draft with what stands behind a backslash. -/
def addAtom? (d : Draft) : Atom → Option Draft
  | .letter c => d.letter? c
  | .set s => some (d.add (.one s))
  | .anchor a => some (d.add (.anchor a))

/-- Reads on. -/
def step? (d : Draft) (c : Char) (rest : List Char) : Option (Draft × List Char) :=
  match c with
  | '(' => d.beginGroup? rest
  | ')' => d.closeGroup?.map (·, rest)
  | '|' => some ({ d with inner := d.inner.split }, rest)
  | '[' => do
    let (s, rest) ← class? d.modes rest
    return (d.add (.one s), rest)
  | '\x7b' => none
  | '\\' => do
    let (a, rest) ← escaped? d.modes rest
    return (← d.addAtom? a, rest)
  | '.' => d.point?.map (·, rest)
  | '^' => some (d.start, rest)
  | '$' => some (d.stop, rest)
  | '?' | '*' | '+' =>
    match rest with
    | '?' :: rest => (d.repeat? c false).map (·, rest)
    | _ => (d.repeat? c true).map (·, rest)
  | _ => (d.letter? c).map (·, rest)

/-- Reads up to the end, where every group must have ended. -/
def finish? (d : Draft) (cs : List Char) : Option Pattern :=
  match d.modes.skip cs with
  | [] => if d.outer.isEmpty then some d.inner.whole else none
  | c :: rest =>
    match d.step? c rest with
    | some (d', rest') => if rest'.length < cs.length then d'.finish? rest' else none
    | none => none
termination_by cs.length

end Draft

/-- The pattern that a text writes. -/
def ofText? (text : String) : Option Pattern :=
  Draft.finish? {} text.toList

end EntityForge.Pattern
