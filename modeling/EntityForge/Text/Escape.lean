/-!
# Control sequences of terminals

A control sequence begins with the escape character and tells a terminal something, for instance in
which colour the text that follows is to be shown. It takes no room itself. There are three kinds:
sequences of parameters behind a bracket, which end with a letter; strings, which end with a bell or
with an escape and a backslash; and short sequences of some signs and a letter.

A text is divided into control sequences and the stretches of plain text between them. An escape
character that begins no complete sequence is plain.
-/

namespace EntityForge.Text

/-- The character that control sequences begin with. -/
def escape : Char := '\x1B'

/-- Whether the code of a character lies between two others. -/
def codeBetween (first last : Nat) (c : Char) : Bool :=
  first ≤ c.toNat && c.toNat ≤ last

/-- The length of a sequence that has a character of one kind behind any number of characters of
another kind. -/
def endedLength? (inner last : Char → Bool) (cs : List Char) : Option Nat :=
  let n := (cs.takeWhile inner).length
  match cs.drop n with
  | c :: _ => if last c then some (n + 1) else none
  | [] => none

/-- The length of a string up to its end. Some strings also end with a bell. -/
def stringLength? (endsWithBell : Bool) : List Char → Option Nat
  | [] => none
  | '\x1B' :: '\\' :: _ => some 2
  | c :: cs =>
    if endsWithBell && c == '\x07' then some 1
    else (stringLength? endsWithBell cs).map (· + 1)

/-- The length of what follows an escape character in a control sequence. -/
def sequenceLength? : List Char → Option Nat
  | '[' :: cs => (endedLength? (codeBetween 0x20 0x3F) (codeBetween 0x40 0x7E) cs).map (· + 1)
  | ']' :: cs => (stringLength? true cs).map (· + 1)
  | 'P' :: cs | 'X' :: cs | '^' :: cs | '_' :: cs => (stringLength? false cs).map (· + 1)
  | cs => endedLength? (codeBetween 0x20 0x2F) (codeBetween 0x30 0x7E) cs

/-- A piece of a text. -/
inductive Stretch
  /-- A control sequence. -/
  | control (cs : List Char)
  /-- Plain text. -/
  | plain (cs : List Char)
  deriving DecidableEq, Repr

namespace Stretch

/-- The control sequence that a piece is. -/
def control? : Stretch → Option (List Char)
  | control cs => some cs
  | plain _ => none

/-- The plain text of a piece. -/
def shown : Stretch → List Char
  | control _ => []
  | plain cs => cs

/-- Puts a plain character before pieces. -/
def before (c : Char) : List Stretch → List Stretch
  | plain cs :: rest => plain (c :: cs) :: rest
  | pieces => plain [c] :: pieces

end Stretch

/-- The pieces of a text, without its first characters. -/
def stretchesBehind (passed : Nat) : List Char → List Stretch
  | [] => []
  | c :: cs =>
    match passed with
    | n + 1 => stretchesBehind n cs
    | 0 =>
      match if c == escape then sequenceLength? cs else none with
      | some n => .control (c :: cs.take n) :: stretchesBehind n cs
      | none => Stretch.before c (stretchesBehind 0 cs)

/-- The pieces of a text. -/
def stretches (cs : List Char) : List Stretch :=
  stretchesBehind 0 cs

end EntityForge.Text
