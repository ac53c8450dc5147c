import EntityForge.Toml.Fault
import EntityForge.Toml.Quoted

/-!
# Tokens of TOML documents

A document is cut into signs, blanks, ends of lines, comments, quoted texts and what is left between
them. Cutting never fails: a quoted text without closing quotes goes on to the end of the line or,
in quotes of three, of the document.
-/

namespace EntityForge.Toml

/-- The kinds of tokens. -/
inductive TokenKind
  /-- A sign that stands for itself. -/
  | sign (c : Char)
  /-- Blanks within a line. -/
  | blanks
  /-- The end of a line. -/
  | lineEnd
  /-- A comment. -/
  | comment
  /-- A quoted text. -/
  | quoted (form : QuoteForm)
  /-- Other characters. -/
  | atom
  deriving DecidableEq, Repr

/-- A part of a document. -/
structure Token where
  /-- The kind. -/
  kind : TokenKind
  /-- The place. -/
  span : Span
  /-- The characters. -/
  text : List Char
  deriving DecidableEq, Repr

/-! ### Ends of tokens -/

/-- The signs that stand for themselves. -/
def signs : List Char := ['.', '=', ',', '[', ']', '\x7b', '\x7d']

/-- Whether a character ends what is no other token. -/
def endsAtom (c : Char) : Bool :=
  signs.contains c || [' ', '\t', '#', '\r', '\n', '\'', '"'].contains c

/-- The length of the text up to a single quote, or before the end of the line. -/
def literalLength : List Char → Nat
  | [] => 0
  | c :: rest => if c = '\'' then 1 else if c = '\n' then 0 else literalLength rest + 1

/-- The length of the text up to a double quote that is not escaped, or before the end of the
line. -/
def basicLength : List Char → Nat
  | '\\' :: '\\' :: rest | '\\' :: '"' :: rest => basicLength rest + 2
  | [] => 0
  | c :: rest => if c = '"' then 1 else if c = '\n' then 0 else basicLength rest + 1

/-- How many of up to two characters at the start of a text are a quote. -/
def moreQuotes (quote : Char) (cs : List Char) : Nat :=
  ((cs.take 2).takeWhile (· == quote)).length

/-- The length of the text up to three single quotes, with up to two more of them. -/
def longLiteralLength : List Char → Nat
  | '\'' :: '\'' :: '\'' :: rest => 3 + moreQuotes '\'' rest
  | _ :: rest => longLiteralLength rest + 1
  | [] => 0

/-- The length of the text up to three double quotes that are not escaped, with up to two more of
them. -/
def longBasicLength : List Char → Nat
  | '"' :: '"' :: '"' :: rest => 3 + moreQuotes '"' rest
  | '\\' :: '\\' :: rest | '\\' :: '"' :: rest => longBasicLength rest + 2
  | _ :: rest => longBasicLength rest + 1
  | [] => 0

/-! ### Cutting -/

/-- The kind and the length of the token at the start of a text. -/
def nextToken (cs : List Char) : TokenKind × Nat :=
  match cs with
  | '\n' :: _ => (.lineEnd, 1)
  | '\r' :: '\n' :: _ => (.lineEnd, 2)
  | '\r' :: _ => (.lineEnd, 1)
  | '"' :: '"' :: '"' :: rest => (.quoted .longBasic, 3 + longBasicLength rest)
  | '"' :: rest => (.quoted .basic, 1 + basicLength rest)
  | '\'' :: '\'' :: '\'' :: rest => (.quoted .longLiteral, 3 + longLiteralLength rest)
  | '\'' :: rest => (.quoted .literal, 1 + literalLength rest)
  | '#' :: _ => (.comment, (cs.takeWhile fun c => c != '\n' && c != '\r').length)
  | c :: _ =>
    if signs.contains c then (.sign c, 1)
    else if c = ' ' ∨ c = '\t' then (.blanks, (cs.takeWhile fun c => c == ' ' || c == '\t').length)
    else (.atom, (cs.takeWhile (!endsAtom ·)).length)
  | [] => (.atom, 0)

/-- The tokens of a text behind a number of characters. -/
def tokensFrom : Nat → Nat → List Char → List Token
  | 0, _, _ => []
  | _, _, [] => []
  | n + 1, start, cs =>
    let (kind, length) := nextToken cs
    let length := max 1 length
    ⟨kind, ⟨start, start + length⟩, cs.take length⟩ ::
      tokensFrom n (start + length) (cs.drop length)

/-- The tokens of a document. A mark of the order of bytes before it is passed over. -/
def tokens (source : String) : List Token :=
  match source.toList with
  | '\ufeff' :: rest => tokensFrom rest.length 1 rest
  | cs => tokensFrom cs.length 0 cs

end EntityForge.Toml
