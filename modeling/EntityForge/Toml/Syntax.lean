import EntityForge.Toml.Token

/-!
# Syntax of TOML documents

A document is a list of lines: members of a table, headers of tables, and comments. What stands for
a name or a value is taken from the tokens as it is written; what it means is left for later. A name
that is missing stands there with no characters, and so does a missing value.
-/

namespace EntityForge.Toml

/-- Something as it is written. -/
structure Written where
  /-- The place. -/
  span : Span
  /-- The quotes around it, if there are any. -/
  quotes : Option QuoteForm
  /-- The characters, with the quotes. -/
  text : List Char
  deriving DecidableEq, Repr

/-- A value as it is written. -/
inductive Node
  /-- A single value. -/
  | scalar (w : Written)
  /-- A list. -/
  | array (span : Span) (items : List Node)
  /-- A table in braces, with the names before each value. -/
  | inline (span : Span) (members : List (List Written × Node))

/-- A line that says something. -/
inductive Line
  /-- The names and the value of a member. -/
  | member (keys : List Written) (v : Node)
  /-- The header of a table, or of one more table in a list, with its names. -/
  | header (listed : Bool) (span : Span) (keys : List Written)

/-- The tokens that are left of a document. -/
structure Scan where
  /-- The tokens. -/
  rest : List Token
  /-- The end of the last token that was neither blank nor a comment. -/
  last : Nat := 0
  /-- The length of the document. -/
  length : Nat

/-- Steps that take tokens from a document. -/
abbrev Scanning := StateT Scan (Except Fault)

namespace Scanning

/-! ### Single tokens -/

/-- The kind of the next token. -/
def peek : Scanning (Option TokenKind) := do return (← get).rest.head?.map (·.kind)

/-- The place before the next token. -/
def here : Scanning Nat := do
  let s ← get
  return (s.rest.head?.map (·.span.start)).getD s.length

/-- Failure at a place. -/
def failAt {α : Type} (message : String) (place : Nat) : Scanning α :=
  throw (.textAt message place place)

/-- Failure before the next token. -/
def fail {α : Type} (message : String) : Scanning α := do failAt message (← here)

/-- Failure at the next token. -/
def failThere {α : Type} (message : String) : Scanning α := do
  match (← get).rest with
  | t :: _ => throw (.textAt message t.span.start t.span.stop)
  | [] => fail message

/-- Refuses a comment with a character that cannot be printed. -/
def checkComment (t : Token) : Except Fault Unit :=
  match t.text.findIdx? isControl with
  | some i => throw (.textAt "invalid comment character, expected printable characters"
      (t.span.start + i) (t.span.start + i))
  | none => return ()

/-- Refuses the end of a line that is a carriage return alone. -/
def checkLineEnd (t : Token) : Except Fault Unit :=
  if t.text = ['\r'] then
    throw (.textAt "carriage return must be followed by newline, expected newline" t.span.stop
      t.span.stop)
  else return ()

/-- The next token, taken. -/
def next : Scanning (Option Token) := do
  match (← get).rest with
  | [] => return none
  | t :: rest =>
    modify fun s => { s with rest }
    match t.kind with
    | .comment => (checkComment t : Except Fault Unit)
    | .lineEnd => (checkLineEnd t : Except Fault Unit)
    | .blanks => pure ()
    | _ => modify fun s => { s with last := t.span.stop }
    return some t

/-- Whether a sign comes next; it is taken if so. -/
def skip (c : Char) : Scanning Bool := do
  if (← peek) = some (.sign c) then
    discard next
    return true
  return false

/-- Blanks within a line. -/
def skipBlanks : Scanning Unit := do
  if (← peek) = some .blanks then discard next

/-- Blanks, comments and ends of lines. -/
def skipSpace : Nat → Scanning Unit
  | 0 => return ()
  | n + 1 => do
    match ← peek with
    | some .blanks | some .comment | some .lineEnd =>
      discard next
      skipSpace n
    | _ => return ()

/-- The rest of a line, which may hold no more than a comment. -/
def finishLine : Scanning Unit := do
  skipBlanks
  if (← peek) = some .comment then discard next
  match ← peek with
  | none => return ()
  | some .lineEnd => discard next
  | some _ => fail "unexpected key or value, expected newline, `#`"

/-! ### Names -/

/-- The quotes of a token that stands for a name or a value. -/
def quotesOf? : TokenKind → Option (Option QuoteForm)
  | .quoted form => some (some form)
  | .atom => some none
  | _ => none

/-- A name or a value with no characters before the next token. -/
def missing : Scanning Written := do
  let place ← here
  return ⟨⟨place, place⟩, none, []⟩

/-- A name, and whether one is there. -/
def name : Scanning (Written × Bool) := do
  skipBlanks
  match (← peek).bind quotesOf?, (← get).rest with
  | some quotes, t :: _ =>
    discard next
    return (⟨t.span, quotes, t.text⟩, true)
  | _, _ => return (← missing, false)

/-- Names with points between them, and whether the last one is there. -/
def names : Nat → Scanning (List Written × Bool)
  | 0 => return ([], false)
  | n + 1 => do
    let (w, there) ← name
    skipBlanks
    if ← skip '.' then
      let (rest, complete) ← names n
      return (w :: rest, complete)
    return ([w], there)

/-! ### Values -/

/-- The further tokens of a value without quotes, in reverse order: blanks are among them if more of
the value follows. -/
def furtherTokens : Nat → List Token → Scanning (List Token)
  | 0, done => return done
  | n + 1, done => do
    match (← get).rest with
    | t :: rest =>
      let follows := t.kind = .atom ∨ t.kind = .sign '.' ∨
        (t.kind = .blanks ∧ rest.head?.map (·.kind) = some .atom)
      if follows then
        discard next
        furtherTokens n (t :: done)
      else return done
    | [] => return done

/-- A single value. -/
def scalar (bound : Nat) : Scanning Node := do
  match (← peek).bind quotesOf?, (← get).rest with
  | some (some form), t :: _ =>
    discard next
    return .scalar ⟨t.span, some form, t.text⟩
  | _, _ =>
    let start ← here
    let ts := (← furtherTokens bound []).reverse
    let stop := (ts.getLast?.map (·.span.stop)).getD start
    return .scalar ⟨⟨start, stop⟩, none, ts.flatMap (·.text)⟩

/-- The items of an array up to its end; `wanted` says whether one may come next. -/
def items (value : Scanning Node) : Nat → Bool → Scanning (List Node)
  | 0, _ => return []
  | n + 1, wanted => do
    skipSpace (n + 1)
    match ← peek with
    | none => failAt "unclosed array, expected `]`" (← get).last
    | some (.sign ']') =>
      discard next
      return []
    | some (.sign ',') =>
      if wanted then failThere "extra comma in array, expected value"
      discard next
      items value n true
    | some (.sign '=') => failThere "unexpected `=` in array, expected value, `]`"
    | some _ =>
      unless wanted do fail "missing comma between array elements, expected `,`"
      let v ← value
      return v :: (← items value n false)

/-- What comes next in a table in braces. -/
inductive Part
  /-- A name. -/
  | key
  /-- The sign between a name and a value. -/
  | equals
  /-- A value. -/
  | value
  /-- A comma. -/
  | comma
  deriving DecidableEq

/-- A part in words. -/
def Part.words : Part → String
  | key => "key"
  | equals => "`=`"
  | value => "value"
  | comma => "`,`"

/-- The members of a table in braces up to its end, behind the names of the next one. -/
def members (value : Scanning Node) : Nat → Part → List Written →
    Scanning (List (List Written × Node))
  | 0, _, _ => return []
  | n + 1, part, keys => do
    skipSpace (n + 1)
    match ← peek, part with
    | none, _ => failAt "unclosed inline table, expected `\x7d`" (← get).last
    | some (.sign ','), .comma =>
      discard next
      members value n .key []
    | some (.sign ','), _ => fail s!"extra comma in inline table, expected {part.words}"
    | some (.sign '='), .value | some (.sign '='), .comma =>
      fail s!"extra assignment between key-value pairs, expected {part.words}"
    | some (.sign '='), .key =>
      let w ← missing
      discard next
      members value n .value [w]
    | some (.sign '='), .equals =>
      discard next
      members value n .value keys
    | some (.sign '\x7d'), .key | some (.sign '\x7d'), .comma =>
      discard next
      return []
    | some (.sign '\x7d'), .value =>
      let w ← missing
      discard next
      return [(keys, .scalar w)]
    | _, .equals => fail "missing assignment between key-value pairs, expected `=`"
    | _, .comma => fail "missing comma between key-value pairs, expected `,`"
    | _, .key =>
      let (keys, _) ← names (n + 1)
      members value n .equals keys
    | _, .value =>
      let v ← value
      return (keys, v) :: (← members value n .comma [])

/-- The greatest depth of values inside each other. -/
def maxDepth : Nat := 80

/-- A value; `nested` reads those inside, unless it stands too deep to have any. `bound` is not less
than the number of tokens that are left. -/
def valueWith (bound : Nat) (nested : Option (Scanning Node)) : Scanning Node := do
  let start ← here
  match ← peek with
  | some (.sign '[') =>
    match nested with
    | none => failThere "cannot recurse further; max recursion depth met"
    | some inside =>
      discard next
      let vs ← items inside bound true
      return .array ⟨start, (← get).last⟩ vs
  | some (.sign '\x7b') =>
    match nested with
    | none => failThere "cannot recurse further; max recursion depth met"
    | some inside =>
      discard next
      let ms ← members inside bound .key []
      return .inline ⟨start, (← get).last⟩ ms
  | some (.sign ']') => fail "missing array opening, expected `[`"
  | some (.sign '\x7d') => fail "missing inline table opening, expected `\x7b`"
  | some (.sign '=') => failThere "extra `=`"
  | _ => scalar bound

/-- A value with others of at most a depth inside. -/
def value (bound : Nat) : Nat → Scanning Node
  | 0 => valueWith bound none
  | depth + 1 => valueWith bound (some (value bound depth))

/-! ### Lines -/

/-- What is left of a line. -/
def skipLine : Nat → Scanning Unit
  | 0 => return ()
  | n + 1 => do
    match ← peek with
    | none | some .lineEnd => return ()
    | some _ =>
      discard next
      skipLine n

/-- A header behind its first bracket. One that ends without a name needs no closing bracket: the
missing name is fault enough. -/
def header (bound : Nat) (start : Nat) : Scanning Line := do
  let listed ← skip '['
  let (keys, there) ← names bound
  if ← skip ']' then
    if listed then
      unless ← skip ']' do failAt "unclosed array table, expected `]`" (← get).last
  else
    if there then
      let words :=
        if listed then "unclosed array table, expected `]]`" else "unclosed table, expected `]`"
      failAt words (← get).last
    skipLine bound
  return .header listed ⟨start, (← get).last⟩ keys

/-- A member of a table. -/
def member (bound : Nat) : Scanning Line := do
  match ← peek with
  | some (.sign ',') | some (.sign '\x7b') | some (.sign '\x7d') =>
    fail "invalid key-value pair, expected key"
  | some (.sign ']') => fail "missing table open, expected `[`"
  | _ =>
    let (keys, _) ← names bound
    unless ← skip '=' do fail "key with no value, expected `=`"
    skipBlanks
    return .member keys (← value bound maxDepth)

/-- The lines up to the end of the document. -/
def lines (bound : Nat) : Nat → Scanning (List Line)
  | 0 => return []
  | n + 1 => do
    skipSpace bound
    if (← peek).isNone then return []
    let start ← here
    let line ← if ← skip '[' then header bound start else member bound
    finishLine
    return line :: (← lines bound n)

end Scanning

/-- The lines of a document. -/
def linesOf (source : String) : Except Fault (List Line) := do
  let rest := tokens source
  let bound := rest.length + 1
  let (lines, _) ← (Scanning.lines bound bound).run { rest, length := source.length }
  return lines

end EntityForge.Toml
