import EntityForge.Decimal.Reading
import EntityForge.Template.Error
import EntityForge.Text.Blank
import EntityForge.Word

/-!
# Tokens of templates

A template is text with marked places: expressions between double braces, statements between a brace
and a percent sign, comments between a brace and a number sign. A minus sign inside a mark removes
the blanks outside of it. What stands in a raw section is text whatever it looks like.

Inside brackets of an expression the closing mark does not count, so that a brace can close a map.
Each token carries the line it starts on.
-/

namespace EntityForge.Template

/-- A token. -/
inductive Token
  /-- Text outside all marks. -/
  | data (text : String)
  /-- The start of an expression. -/
  | expressionStart
  /-- The end of an expression. -/
  | expressionEnd
  /-- The start of a statement. -/
  | statementStart
  /-- The end of a statement. -/
  | statementEnd
  /-- A name. -/
  | ident (name : String)
  /-- A quoted text. -/
  | text (value : String)
  /-- An integer. -/
  | integer (value : Nat)
  /-- A number with a fraction or a power of ten. -/
  | float (value : Float)
  /-- An operator or a bracket. -/
  | sign (text : String)
  /-- Something that is no token. -/
  | fault (error : Error)

/-- A token with the line it starts on. -/
structure Placed where
  /-- The token. -/
  token : Token
  /-- The line, from one. -/
  line : Nat

namespace Token

/-- What a token is, in words. -/
def words : Token → String
  | data _ => "template-data"
  | expressionStart => "start of variable block"
  | expressionEnd => "end of variable block"
  | statementStart => "start of block"
  | statementEnd => "end of block"
  | ident _ => "identifier"
  | text _ => "string"
  | integer _ => "integer"
  | float _ => "float"
  | sign s => "`" ++ s ++ "`"
  | fault e => e.message

/-- Whether a token is a sign. -/
def isSign (s : String) : Token → Bool
  | sign t => t == s
  | _ => false

/-- Whether a token is a word. -/
def isWord (s : String) : Token → Bool
  | ident t => t == s
  | _ => false

end Token

/-- The number of line feeds in a text. -/
def lineFeeds (cs : List Char) : Nat :=
  cs.countP (· == '\n')

/-! ### Quoted texts -/

/-- The value of a hexadecimal digit. -/
def hexValue? (c : Char) : Option Nat :=
  if '0' ≤ c ∧ c ≤ '9' then some (c.toNat - '0'.toNat)
  else if 'a' ≤ c ∧ c ≤ 'f' then some (c.toNat - 'a'.toNat + 10)
  else if 'A' ≤ c ∧ c ≤ 'F' then some (c.toNat - 'A'.toNat + 10)
  else none

/-- The number that hexadecimal digits stand for; a plus sign may stand before them. -/
def hexNumber? (cs : List Char) : Option Nat :=
  let digits := match cs with
    | '+' :: d :: rest => d :: rest
    | cs => cs
  digits.foldlM (fun n c => (hexValue? c).map (n * 16 + ·)) 0

/-- The value of an octal digit. -/
def octalValue? (c : Char) : Option Nat :=
  if '0' ≤ c ∧ c ≤ '7' then some (c.toNat - '0'.toNat) else none

/-- The number that one to three octal digits stand for, and what follows them. -/
def octalNumber (n : Nat) : Nat → List Char → Nat × List Char
  | 0, cs => (n, cs)
  | _, [] => (n, [])
  | k + 1, c :: cs =>
    match octalValue? c with
    | some d => octalNumber (n * 8 + d) k cs
    | none => (n, c :: cs)

/-- The characters that a letter behind a backslash stands for. -/
def plainEscape? : Char → Option Char
  | '"' => some '"'
  | '\\' => some '\\'
  | '/' => some '/'
  | '\'' => some '\''
  | 'b' => some '\x08'
  | 'f' => some '\x0c'
  | 'n' => some '\n'
  | 'r' => some '\r'
  | 't' => some '\t'
  | _ => none

/-- What an escape comes to. -/
inductive Escape
  /-- A unit of 16 bits, which may be half of a character. -/
  | unit (n : Nat)
  /-- Some characters. -/
  | chars (cs : List Char)

/-- The escape behind a backslash, and what follows it. A backslash before a character that makes no
escape stands for itself. -/
def readEscape : List Char → Option (Escape × List Char)
  | [] => none
  | 'u' :: cs =>
    if cs.length < 4 then none
    else (hexNumber? (cs.take 4)).map fun n => (.unit n, cs.drop 4)
  | 'x' :: cs =>
    if cs.length < 2 then none
    else (hexNumber? (cs.take 2)).map fun n => (.chars [Char.ofNat n], cs.drop 2)
  | c :: cs =>
    match plainEscape? c, octalValue? c with
    | some d, _ => some (.chars [d], cs)
    | none, some d =>
      let (n, rest) := octalNumber d 2 cs
      some (.chars [Char.ofNat n], rest)
    | none, none => some (.chars ['\\', c], cs)

/-- The characters of a quoted text with its escapes resolved. `half` is the first half of a
character that an escape has begun; the first number bounds the length of the text. -/
def unescape : Nat → Option Nat → List Char → Option (List Char)
  | _, half, [] => if half.isNone then some [] else none
  | 0, _, _ => none
  | k + 1, half, '\\' :: rest => do
    match ← readEscape rest with
    | (.chars cs, after) =>
      if half.isSome then none
      return cs ++ (← unescape k none after)
    | (.unit n, after) =>
      match half with
      | some h =>
        if 0xDC00 ≤ n ∧ n ≤ 0xDFFF then
          return Char.ofNat (0x10000 + (h - 0xD800) * 0x400 + (n - 0xDC00)) ::
            (← unescape k none after)
        else none
      | none =>
        if 0xD800 ≤ n ∧ n < 0xDC00 then unescape k (some n) after
        else if 0xDC00 ≤ n ∧ n ≤ 0xDFFF then none
        else return Char.ofNat n :: (← unescape k none after)
  | k + 1, half, c :: rest => if half.isSome then none else (unescape k none rest).map (c :: ·)

/-- The characters up to a closing quote, and what follows it. A backslash keeps the character after
it from closing the text. -/
def cutQuoted (quote : Char) (seen : List Char) : List Char → Option (List Char × List Char)
  | [] => none
  | '\\' :: c :: rest => cutQuoted quote (c :: '\\' :: seen) rest
  | c :: rest =>
    if c = quote then some (seen.reverse, rest)
    else if c = '\\' then none
    else cutQuoted quote (c :: seen) rest

/-! ### Numbers -/

/-- How far a number has been read. -/
inductive NumberState
  /-- In an integer of another base than ten. -/
  | radix
  /-- In an integer. -/
  | integer
  /-- Behind the point. -/
  | fraction
  /-- Behind the sign of the power. -/
  | power
  /-- In the digits of the power. -/
  | powerDigits
  deriving DecidableEq

/-- The state after one more character of a number, if it belongs to the number. -/
def NumberState.next? (hex : Bool) (s : NumberState) (c : Char) : Option NumberState :=
  if c = '_' then some s
  else
    match s with
    | radix => if c.isDigit || (hex && (hexValue? c).isSome) then some radix else none
    | integer =>
      if c.isDigit then some integer
      else if c = '.' then some fraction
      else if c = 'e' || c = 'E' then some power
      else none
    | fraction =>
      if c.isDigit then some fraction
      else if c = 'e' || c = 'E' then some power
      else none
    | power => if c.isDigit || c = '+' || c = '-' then some powerDigits else none
    | powerDigits => if c.isDigit then some powerDigits else none

/-- The characters of a number, and the state they end in. -/
def cutNumber (hex : Bool) (s : NumberState) (seen : List Char) :
    List Char → List Char × NumberState × List Char
  | [] => (seen.reverse, s, [])
  | c :: cs =>
    match s.next? hex c with
    | some s' => cutNumber hex s' (c :: seen) cs
    | none => (seen.reverse, s, c :: cs)

/-- The value of digits of a base. -/
def valueIn? (base : Nat) (cs : List Char) : Option Nat :=
  if cs.isEmpty then none
  else
    let push (n : Nat) (c : Char) :=
      (hexValue? c).bind fun d => if d < base then some (n * base + d) else none
    cs.foldlM push 0

/-- The token of a number of a base. -/
def numberToken (base : Nat) (cs : List Char) (s : NumberState) : Token :=
  let digits := cs.filter (· != '_')
  if cs.getLast? = some '_' then .fault (.badText "'_' may not occur at end of number")
  else if s = .integer ∨ s = .radix then
    match (valueIn? base digits).filter (· < Word.count 128) with
    | some n => .integer n
    | none => .fault (.badText "invalid integer (too large)")
  else
    match Decimal.read? digits with
    | some x => .float x
    | none => .fault (.badText "invalid float")

/-- The number at the start of a text, and what follows it. -/
def readNumber (cs : List Char) : Token × List Char :=
  let other (base : Nat) (rest : List Char) : Token × List Char :=
    let (ds, s, after) := cutNumber (base == 16) .radix [] rest
    (numberToken base ds s, after)
  match cs with
  | '0' :: 'b' :: rest | '0' :: 'B' :: rest => other 2 rest
  | '0' :: 'o' :: rest | '0' :: 'O' :: rest => other 8 rest
  | '0' :: 'x' :: rest | '0' :: 'X' :: rest => other 16 rest
  | _ =>
    let (ds, s, after) := cutNumber false .integer [] cs
    (numberToken 10 ds s, after)

/-! ### Marks -/

/-- The marks that begin a place in the text. -/
inductive Mark
  /-- An expression. -/
  | expression
  /-- A statement. -/
  | statement
  /-- A comment. -/
  | comment
  deriving DecidableEq

/-- The mark that a character behind an opening brace makes. -/
def Mark.ofChar? : Char → Option Mark
  | '\x7b' => some .expression
  | '%' => some .statement
  | '#' => some .comment
  | _ => none

/-- The text up to the first mark, the mark, and what follows it. -/
def cutMark (seen : List Char) : List Char → List Char × Option (Mark × List Char)
  | [] => (seen.reverse, none)
  | '\x7b' :: c :: rest =>
    match Mark.ofChar? c with
    | some m => (seen.reverse, some (m, rest))
    | none => cutMark ('\x7b' :: seen) (c :: rest)
  | c :: rest => cutMark (c :: seen) rest

/-- What a mark does to the blanks outside of it. -/
inductive Trim
  /-- It removes them. -/
  | remove
  /-- It leaves them. -/
  | keep
  deriving DecidableEq

/-- The sign behind an opening mark, and what follows it. -/
def readTrim : List Char → Trim × List Char
  | '-' :: rest => (.remove, rest)
  | '+' :: rest => (.keep, rest)
  | rest => (.keep, rest)

/-- The text of a comment and what follows it. -/
def cutComment (seen : List Char) : List Char → Option (List Char × List Char)
  | [] => none
  | '#' :: '\x7d' :: rest => some (seen.reverse, rest)
  | c :: rest => cutComment (c :: seen) rest

/-- Whether a character is a blank between tokens. -/
def isSpace (c : Char) : Bool :=
  c == ' ' || c == '\t' || c == '\n' || c == '\r' || c == '\x0c'

/-- The rest of a statement that consists of one word, with what it does to the blanks behind it. -/
def readWordStatement (word : String) (cs : List Char) : Option (Trim × List Char) :=
  let start := (readTrim cs).2.dropWhile isSpace
  if word.toList.isPrefixOf start then
    let rest := (start.drop word.length).dropWhile isSpace
    match readTrim rest with
    | (t, '%' :: '\x7d' :: after) => some (t, after)
    | _ => none
  else none

/-- The text of a raw section, what its end does to the blanks on both sides of it, and what
follows. -/
def cutRaw (seen : List Char) : List Char → Option (List Char × Trim × Trim × List Char)
  | [] => none
  | '\x7b' :: '%' :: rest =>
    match readWordStatement "endraw" rest with
    | some (after, remaining) => some (seen.reverse, (readTrim rest).1, after, remaining)
    | none => cutRaw ('%' :: '\x7b' :: seen) rest
  | c :: rest => cutRaw (c :: seen) rest

/-! ### The tokens of a template -/

/-- Where the reading of tokens stands. -/
inductive Mode
  /-- In text. -/
  | text
  /-- In an expression or a statement, inside a number of brackets. -/
  | inside (statement : Bool) (depth : Int)

/-- Whether a character starts a name. -/
def startsName (c : Char) : Bool :=
  c.isAlpha || c == '_'

/-- Whether a character can stand in a name. -/
def inName (c : Char) : Bool :=
  c.isAlphanum || c == '_'

/-- The signs of two characters. -/
def doubleSigns : List String := ["//", "**", "==", "!=", ">=", "<="]

/-- The signs of one character. -/
def singleSigns : List Char :=
  ['+', '-', '*', '/', '%', '.', ',', ':', '~', '|', '=', '>', '<', '(', ')', '[', ']', '\x7b',
    '\x7d']

/-- How a bracket changes the number of brackets that are open. -/
def bracketChange (c : Char) : Int :=
  if c = '(' ∨ c = '[' ∨ c = '\x7b' then 1
  else if c = ')' ∨ c = ']' ∨ c = '\x7d' then -1
  else 0

/-- The token at the start of the inside of a mark, what follows it, and how it changes the number
of open brackets. -/
def readInside (cs : List Char) : Token × List Char × Int :=
  match cs with
  | [] => (.fault (.badText "unexpected end of input"), [], 0)
  | c :: rest =>
    let two := String.ofList (cs.take 2)
    if doubleSigns.contains two then (.sign two, cs.drop 2, 0)
    else if c = '"' ∨ c = '\'' then
      match cutQuoted c [] rest with
      | none => (.fault (.badText "unexpected end of string"), [], 0)
      | some (content, after) =>
        match unescape content.length none content with
        | some value => (.text (String.ofList value), after, 0)
        | none => (.fault { kind := .badEscape }, [], 0)
    else if singleSigns.contains c then (.sign c.toString, rest, bracketChange c)
    else if c.isDigit then
      let (token, after) := readNumber cs
      (token, after, 0)
    else if startsName c then
      (.ident (String.ofList (cs.takeWhile inName)), cs.dropWhile inName, 0)
    else (.fault (.badText "unexpected character"), [], 0)

/-- The end of a mark at the start of a text: what it does to the blanks behind it, and what
follows. -/
def readMarkEnd (statement : Bool) (cs : List Char) : Option (Trim × List Char) :=
  let (t, rest) := readTrim cs
  match rest with
  | a :: b :: after =>
    if a = (if statement then '%' else '\x7d') ∧ b = '\x7d' then some (t, after) else none
  | _ => none

/-- A text token, unless the text is empty. -/
def dataToken (line : Nat) (cs : List Char) : List Placed :=
  if cs.isEmpty then [] else [⟨.data (String.ofList cs), line⟩]

/-- The text behind a mark that may remove the blanks there, and the line it starts on. -/
def afterTrim (t : Trim) (line : Nat) (cs : List Char) : Nat × List Char :=
  match t with
  | .keep => (line, cs)
  | .remove => (line + lineFeeds (cs.takeWhile Text.isBlank), cs.dropWhile Text.isBlank)

/-- The text before a mark that may remove the blanks there. -/
def beforeTrim (t : Trim) (cs : List Char) : List Char :=
  match t with
  | .keep => cs
  | .remove => Text.trimRight cs

/-- The tokens of a text from a place on. -/
def tokensFrom : Nat → Mode → Nat → List Char → List Placed
  | 0, _, _, _ => []
  | fuel + 1, .text, line, cs =>
    match cutMark [] cs with
    | (before, none) => dataToken line before
    | (before, some (mark, rest)) =>
      let (trimBefore, inner) := readTrim rest
      let shown := beforeTrim trimBefore before
      let markLine := line + lineFeeds before
      dataToken line shown ++
        match mark with
        | .comment =>
          match cutComment [] rest with
          | none => [⟨.fault (.badText "unexpected end of comment"), markLine⟩]
          | some (content, after) =>
            let t := if content.getLast? = some '-' then Trim.remove else .keep
            let (line', cs') := afterTrim t (markLine + lineFeeds content) after
            tokensFrom fuel .text line' cs'
        | .expression =>
          ⟨.expressionStart, markLine⟩ :: tokensFrom fuel (.inside false 0) markLine inner
        | .statement =>
          match readWordStatement "raw" rest with
          | some (t, body) =>
            let bodyLine := markLine + lineFeeds (rest.take (rest.length - body.length))
            match cutRaw [] body with
            | none => [⟨.fault (.badText "unexpected end of raw block"), bodyLine⟩]
            | some (content, before', after', remaining) =>
              let left := match t with
                | .remove => content.dropWhile Text.isBlank
                | .keep => content
              let consumed := body.take (body.length - remaining.length)
              let (line', cs') := afterTrim after' (bodyLine + lineFeeds consumed) remaining
              ⟨.data (String.ofList (beforeTrim before' left)), bodyLine⟩ ::
                tokensFrom fuel .text line' cs'
          | none =>
            ⟨.statementStart, markLine⟩ :: tokensFrom fuel (.inside true 0) markLine inner
  | fuel + 1, .inside statement depth, line, cs =>
    let line := line + lineFeeds (cs.takeWhile isSpace)
    match cs.dropWhile isSpace with
    | [] => []
    | start =>
      match if depth = 0 then readMarkEnd statement start else none with
      | some (t, after) =>
        let (line', cs') := afterTrim t line after
        ⟨if statement then .statementEnd else .expressionEnd, line⟩ ::
          tokensFrom fuel .text line' cs'
      | none =>
        let (token, after, change) := readInside start
        let consumed := start.take (start.length - after.length)
        ⟨token, line⟩ ::
          match token with
          | .fault _ => []
          | _ =>
            tokensFrom fuel (.inside statement (depth + change)) (line + lineFeeds consumed) after

/-- The tokens of a template. -/
def tokens (source : String) : List Placed :=
  tokensFrom (2 * source.length + 2) .text 1 source.toList

end EntityForge.Template
