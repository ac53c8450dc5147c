/-!
# Quoted texts of TOML

A text is written between quotes of one of four forms: between double quotes with escapes, between
single quotes as it is, or between three quotes of either kind, where it may have several lines. The
first form that needs no escape is taken, and one with escapes if there is none.
-/

namespace EntityForge.Toml

/-- How a text is quoted. -/
inductive QuoteForm
  /-- Double quotes. -/
  | basic
  /-- Single quotes. -/
  | literal
  /-- Three double quotes. -/
  | longBasic
  /-- Three single quotes. -/
  | longLiteral
  deriving DecidableEq, Repr

/-- Whether a character cannot stand for itself in any form. -/
def isControl (c : Char) : Bool :=
  (c.toNat < 0x20 && c != '\t' && c != '\n') || c.toNat == 0x7F

/-- The length of the longest run of a character, of which some stand before the text. -/
def longestRunFrom (c : Char) (run : Nat) : List Char → Nat
  | [] => run
  | d :: ds => if d = c then longestRunFrom c (run + 1) ds else max run (longestRunFrom c 0 ds)

/-- The length of the longest run of a character. -/
def longestRun (c : Char) (cs : List Char) : Nat :=
  longestRunFrom c 0 cs

/-- The form in which a text is written. -/
def QuoteForm.ofText (cs : List Char) : QuoteForm :=
  let controls := cs.any isControl
  let lines := cs.contains '\n'
  let escapes := cs.contains '\\'
  if !controls && !escapes && longestRun '"' cs = 0 && !lines then basic
  else if !controls && longestRun '\'' cs = 0 && !lines then literal
  else if !controls && !escapes && longestRun '"' cs ≤ 2 then longBasic
  else if !controls && longestRun '\'' cs ≤ 2 then longLiteral
  else if lines then longBasic
  else basic

/-- A hexadecimal digit in the upper case. -/
def upperHexDigit (n : Nat) : Char :=
  (Nat.digitChar n).toUpper

/-- The escape of a character by its number. -/
def codeEscape (c : Char) : List Char :=
  ['\\', 'u', '0', '0', upperHexDigit (c.toNat / 16), upperHexDigit (c.toNat % 16)]

/-- A character other than a double quote between double quotes. -/
def escapedChar (long : Bool) (c : Char) : List Char :=
  if c = '\\' then ['\\', '\\']
  else if c = '\x08' then ['\\', 'b']
  else if c = '\t' then ['\\', 't']
  else if c = '\n' then (if long then ['\n'] else ['\\', 'n'])
  else if c = '\x0c' then ['\\', 'f']
  else if c = '\r' then ['\\', 'r']
  else if isControl c then codeEscape c
  else [c]

/-- A text between double quotes, behind a run of double quotes. Between three quotes, up to two may
stand side by side. -/
def escapedFrom (long : Bool) (run : Nat) : List Char → List Char
  | [] => []
  | c :: cs =>
    if c = '"' then
      if long && run < 2 then '"' :: escapedFrom long (run + 1) cs
      else '\\' :: '"' :: escapedFrom long 0 cs
    else escapedChar long c ++ escapedFrom long 0 cs

/-- A text in a form. -/
def QuoteForm.write (form : QuoteForm) (cs : List Char) : List Char :=
  let lineEnd := if cs.contains '\n' then ['\n'] else []
  match form with
  | basic => '"' :: escapedFrom false 0 cs ++ ['"']
  | literal => '\'' :: cs ++ ['\'']
  | longBasic => ['"', '"', '"'] ++ lineEnd ++ escapedFrom true 0 cs ++ ['"', '"', '"']
  | longLiteral => ['\'', '\'', '\''] ++ lineEnd ++ cs ++ ['\'', '\'', '\'']

/-- A text as it is written. -/
def quoted (s : String) : String :=
  String.ofList ((QuoteForm.ofText s.toList).write s.toList)

end EntityForge.Toml
