import EntityForge.Toml.Syntax

/-!
# Texts between quotes

The text that a quoted text stands for. Between double quotes a backslash starts an escape; between
three double quotes it can also join lines.
-/

namespace EntityForge.Toml

/-- The value of a hexadecimal digit. -/
def hexDigit? (c : Char) : Option Nat :=
  if '0' ≤ c ∧ c ≤ '9' then some (c.toNat - '0'.toNat)
  else if 'a' ≤ c ∧ c ≤ 'f' then some (c.toNat - 'a'.toNat + 10)
  else if 'A' ≤ c ∧ c ≤ 'F' then some (c.toNat - 'A'.toNat + 10)
  else none

/-- The number that digits of a base stand for. -/
def numberOf (base : Nat) (ds : List Char) : Nat :=
  ds.foldl (fun n c => base * n + (hexDigit? c).getD 0) 0

/-! ### Escapes -/

/-- The character of an escape with one letter. -/
def letterEscape? : Char → Option Char
  | 'b' => some '\x08'
  | 't' => some '\t'
  | 'n' => some '\n'
  | 'f' => some '\x0c'
  | 'r' => some '\r'
  | 'e' => some '\x1b'
  | '"' => some '"'
  | '\\' => some '\\'
  | _ => none

/-- The number of digits of an escape with a number. -/
def numberEscape? : Char → Option Nat
  | 'x' => some 2
  | 'u' => some 4
  | 'U' => some 8
  | _ => none

/-- The wording for a backslash that starts no escape. -/
def noEscape : String :=
  "missing escaped value, " ++
    "expected `b`, `e`, `f`, `n`, `r`, `\\`, `\"`, `x`, `u`, `U`"

/-- The character of an escape behind a backslash at a place, and what follows it. -/
def escape (place : Nat) (cs : List Char) : Except Fault (Char × List Char) :=
  match cs with
  | [] => throw (.textAt noEscape place place)
  | c :: rest =>
    match letterEscape? c, numberEscape? c with
    | some d, _ => return (d, rest)
    | none, none => throw (.textAt noEscape place place)
    | none, some width =>
      let ds := (rest.take width).takeWhile fun c => (hexDigit? c).isSome
      let stop := place + 1 + ds.length
      if ds.length < width then
        throw (.textAt "too few unicode value digits, expected unicode hexadecimal value" stop stop)
      else if (numberOf 16 ds).isValidChar then
        return (Char.ofNat (numberOf 16 ds), rest.drop width)
      else
        throw (.textAt "value is out of range, expected unicode hexadecimal value" (place + 1) stop)

/-- Whether a character is passed over where lines are joined. -/
def isJoinedBlank (c : Char) : Bool :=
  c == ' ' || c == '\t' || c == '\n' || c == '\r'

/-- What follows the end of a line that a backslash before it joins to the next one, if only blanks
stand before that end. -/
def joinedLine? (cs : List Char) : Option (List Char) :=
  match cs.dropWhile fun c => c == ' ' || c == '\t' with
  | '\n' :: rest | '\r' :: '\n' :: rest => some (rest.dropWhile isJoinedBlank)
  | _ => none

/-! ### Texts -/

/-- The kind of a quoted text in words. -/
def QuoteForm.words : QuoteForm → String
  | basic => "basic string"
  | literal => "literal string"
  | longBasic => "multi-line basic string"
  | longLiteral => "multi-line literal string"

/-- The quotes around a text of a form. -/
def QuoteForm.quotes : QuoteForm → List Char
  | basic => ['"']
  | literal => ['\'']
  | longBasic => ['"', '"', '"']
  | longLiteral => ['\'', '\'', '\'']

/-- Whether a text has escapes. -/
def QuoteForm.hasEscapes : QuoteForm → Bool
  | basic | longBasic => true
  | literal | longLiteral => false

/-- Whether a text may have several lines. -/
def QuoteForm.isLong : QuoteForm → Bool
  | longBasic | longLiteral => true
  | basic | literal => false

/-- What characters may stand in a text. -/
def QuoteForm.admitted : QuoteForm → String
  | basic => "non-double-quote visible characters, `\\`"
  | literal => "non-single-quote visible characters"
  | longBasic => "non-double-quote characters, `\\`"
  | longLiteral => "non-single-quote characters"

/-- Whether a character cannot stand for itself before some others. -/
def QuoteForm.refuses (form : QuoteForm) (c : Char) (rest : List Char) : Bool :=
  if c = '\r' then !(form.isLong && rest.head? == some '\n')
  else isControl c || (c == '\n' && !form.isLong)

/-- The text that the characters of a form stand for. `stop` is the place behind them. -/
def unescapedFrom (form : QuoteForm) (stop : Nat) : Nat → List Char → Except Fault (List Char)
  | 0, _ => return []
  | _, [] => return []
  | n + 1, c :: rest => do
    if c = '\\' && form.hasEscapes then
      match if form.isLong then joinedLine? rest else none with
      | some following => unescapedFrom form stop n following
      | none =>
        let (d, following) ← escape (stop - rest.length) rest
        return d :: (← unescapedFrom form stop n following)
    else if form.refuses c rest then
      let place := stop - rest.length - 1
      throw (.textAt s!"invalid {form.words}, expected {form.admitted}" place place)
    else return c :: (← unescapedFrom form stop n rest)

/-- The text behind opening quotes without the end of line that may follow them. -/
def dropLineEnd : List Char → List Char
  | '\n' :: rest | '\r' :: '\n' :: rest => rest
  | rest => rest

/-- The text that something in quotes stands for. -/
def unescaped (form : QuoteForm) (w : Written) : Except Fault String := do
  let quotes := form.quotes
  let inside := w.text.drop quotes.length
  let inside := if form.isLong then dropLineEnd inside else inside
  if !quotes.isSuffixOf inside then
    let quote := String.ofList (quotes.take 1)
    throw (.textAt s!"invalid {form.words}, expected `{quote}`" w.span.stop w.span.stop)
  let content := inside.take (inside.length - quotes.length)
  let cs ← unescapedFrom form (w.span.stop - quotes.length) content.length content
  return String.ofList cs

end EntityForge.Toml
