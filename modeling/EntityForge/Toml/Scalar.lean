import EntityForge.Decimal.Reading
import EntityForge.Toml.Moment
import EntityForge.Toml.Value

/-!
# Unquoted values of TOML

A value without quotes is a truth value, a number, or a date or time; its first character decides
which of them it has to be. Underscores may stand between two digits.
-/

namespace EntityForge.Toml

namespace Written

/-- A fault at the end of what is written, from some of its last characters on. -/
def faultAt {α : Type} (w : Written) (message : String) (rest : List Char) (length : Nat) :
    Except Fault α :=
  let place := w.span.stop - rest.length
  throw (.textAt message place (place + length))

/-- A fault of all that is written. -/
def fault {α : Type} (w : Written) (message : String) : Except Fault α :=
  throw (.textAt message w.span.start w.span.stop)

/-- The fault of a value that is none of those without quotes. -/
def needsQuotes {α : Type} (w : Written) : Except Fault α :=
  w.fault "string values must be quoted, expected literal string"

/-! ### Parts of numbers -/

/-- Whether a character is a digit of a base. -/
def isDigitOf (base : Nat) (c : Char) : Bool :=
  (hexDigit? c).any (· < base)

/-- The text from the first underscore on that does not stand between two digits; before the text
there is a digit or not. -/
def strayBar? (isDigit : Char → Bool) : Bool → List Char → Option (List Char)
  | _, [] => none
  | before, '_' :: rest =>
    if before && rest.head?.any (fun c => isDigit c || c == '_') then strayBar? isDigit false rest
    else some ('_' :: rest)
  | _, c :: rest => strayBar? isDigit (isDigit c) rest

/-- Refuses an underscore that does not stand between two digits. -/
def checkBars (w : Written) (isDigit : Char → Bool) (cs : List Char) : Except Fault Unit :=
  match strayBar? isDigit false cs with
  | some rest => w.faultAt "`_` may only go between digits, expected nothing" rest 1
  | none => return ()

/-- A text without its underscores. -/
def withoutBars (cs : List Char) : List Char :=
  cs.filter (· != '_')

/-- What follows the digits at the start of a text, of which there has to be one. Unless `zeros`, a
zero must not be the first of several. -/
def afterDigits (w : Written) (what : String) (zeros : Bool) (cs : List Char) :
    Except Fault (List Char) := do
  let rest := cs.dropWhile fun c => c.isDigit || c == '_'
  let ds := withoutBars (cs.take (cs.length - rest.length))
  if ds.isEmpty then w.faultAt s!"invalid {what}, expected digits" rest 0
  if !zeros && 1 < ds.length && cs.head? == some '0' then
    w.faultAt "unexpected leading zero, expected nothing" cs 1
  return rest

/-! ### Numbers -/

/-- An integer of a base other than ten. -/
def based (w : Written) (base : Nat) (name : String) (cs : List Char) : Except Fault Value := do
  let wrong := cs.dropWhile fun c => isDigitOf base c || c == '_'
  if !wrong.isEmpty || cs.isEmpty then w.faultAt s!"invalid {name} number" wrong 0
  w.checkBars (isDigitOf base) cs
  return .integer (numberOf base (withoutBars cs))

/-- A decimal number, which has a fraction or a power of ten if it is no integer. -/
def decimal (w : Written) (negative : Bool) (cs : List Char) : Except Fault Value := do
  if cs.any fun c => c == '.' || c == 'e' || c == 'E' then
    w.checkBars Char.isDigit cs
    let rest ← w.afterDigits "mantissa" false cs
    let rest ← match rest with
      | '.' :: rest => w.afterDigits "fraction" true rest
      | rest => pure rest
    let rest ← match rest with
      | e :: rest =>
        if e = 'e' ∨ e = 'E' then
          match rest with
          | '+' :: rest | '-' :: rest => w.afterDigits "exponent" true rest
          | rest => w.afterDigits "exponent" true rest
        else pure (e :: rest)
      | [] => pure []
    if !rest.isEmpty then w.faultAt "invalid float, expected nothing" rest rest.length
    match Decimal.read? (withoutBars cs) with
    | some x =>
      return if x.isInf then .excess else .float (if negative then -x else x)
    | none => w.needsQuotes
  else if cs.all fun c => c.isDigit || c == '_' then
    w.checkBars Char.isDigit cs
    discard (w.afterDigits "integer" false cs)
    let n : Int := numberOf 10 (withoutBars cs)
    return .integer (if negative then -n else n)
  else w.needsQuotes

/-- A number, or a date or time if a dash or a colon follows its first digits. -/
def numberOrMoment (w : Written) (negative : Bool) (cs : List Char) : Except Fault Value :=
  match cs.dropWhile Char.isDigit with
  | '-' :: _ | ':' :: _ =>
    match momentFault? w.text with
    | some f => w.fault f.message
    | none => return .dateTime
  | _ => w.decimal negative cs

/-- A number that starts with a zero and may name its base. -/
def afterZero (w : Written) (signed negative : Bool) (cs : List Char) : Except Fault Value :=
  let inBase (base : Nat) (mark : Char) (name : String) (c : Char) (rest : List Char) := do
    if signed then
      throw (Fault.textAt "integers with a radix cannot be signed, expected nothing" w.span.start
        (w.span.start + 1))
    if c ≠ mark then w.faultAt s!"radix must be lowercase, expected `0{mark}`" cs 2
    w.based base name rest
  match cs with
  | '0' :: c :: rest =>
    match c with
    | 'x' | 'X' => inBase 16 'x' "hexadecimal" c rest
    | 'o' | 'O' => inBase 8 'o' "octal" c rest
    | 'b' | 'B' => inBase 2 'b' "binary" c rest
    | 'd' | 'D' => w.faultAt "redundant integer number prefix, expected nothing" cs 2
    | _ => w.numberOrMoment negative cs
  | _ => return .integer 0

/-- A word for a value. -/
def word (w : Written) (cs : List Char) (what expected : String) (v : Value) : Except Fault Value :=
  if cs = expected.toList then return v else w.fault s!"invalid {what}, expected `{expected}`"

/-- An infinite value. -/
def infinite (negative : Bool) : Value :=
  .float (if negative then -(1.0 / 0.0) else 1.0 / 0.0)

/-- A number behind a sign. -/
def afterSign (w : Written) (negative : Bool) (cs : List Char) : Except Fault Value :=
  match cs with
  | [] => w.needsQuotes
  | c :: _ =>
    if c = '+' ∨ c = '-' then w.faultAt "redundant numeric sign, expected nothing" cs 1
    else if c = '0' then w.afterZero true negative cs
    else if c.isDigit || c == '_' then w.numberOrMoment negative cs
    else if c = '.' then w.decimal negative cs
    else if c = 'i' ∨ c = 'I' then w.word cs "float" "inf" (infinite negative)
    else if c = 'n' ∨ c = 'N' then w.word cs "float" "nan" (.float (0.0 / 0.0))
    else w.needsQuotes

/-- A value without quotes. -/
def unquoted (w : Written) : Except Fault Value :=
  let cs := w.text
  match cs with
  | [] => w.needsQuotes
  | c :: rest =>
    if c = '+' ∨ c = '-' then w.afterSign (c == '-') rest
    else if c = '0' then w.afterZero false false cs
    else if c.isDigit || c == '_' then w.numberOrMoment false cs
    else if c = '.' then w.decimal false cs
    else if c = 't' ∨ c = 'T' then w.word cs "boolean" "true" (.boolean true)
    else if c = 'f' ∨ c = 'F' then w.word cs "boolean" "false" (.boolean false)
    else if c = 'i' ∨ c = 'I' then w.word cs "float" "inf" (infinite false)
    else if c = 'n' ∨ c = 'N' then w.word cs "float" "nan" (.float (0.0 / 0.0))
    else w.needsQuotes

/-! ### Values and names -/

/-- The value that is written. -/
def value (w : Written) : Except Fault Value :=
  match w.quotes with
  | some form => Value.string <$> unescaped form w
  | none => w.unquoted

/-- What may stand in a name without quotes. -/
def nameCharacters : String := "expected letters, numbers, `-`, `_`"

/-- The name that is written. -/
def name (w : Written) : Except Fault String :=
  match w.quotes with
  | some form =>
    if form.isLong then w.fault "multi-line strings are not allowed in key" else unescaped form w
  | none =>
    let isPlain (c : Char) := c.isAlphanum || c == '_' || c == '-'
    match w.text.dropWhile isPlain with
    | [] =>
      if w.text.isEmpty then w.fault s!"unquoted keys cannot be empty, {nameCharacters}"
      else return String.ofList w.text
    | wrong => w.faultAt s!"invalid unquoted key, {nameCharacters}" wrong 1

end Written

end EntityForge.Toml
