import EntityForge.Json.Value

/-!
# Reading JSON

A text is read from left to right. Where it stops being JSON the reading stops too, and the value
read so far says so.
-/

namespace EntityForge.Json

/-- Whether a character is white space between the parts of a value. -/
def isSpace (c : Char) : Bool :=
  c == ' ' || c == '\n' || c == '\t' || c == '\r'

/-- A text without the white space at its start. -/
def skipSpace (cs : List Char) : List Char :=
  cs.dropWhile isSpace

/-- The value of a hexadecimal digit. -/
def hexDigit? (c : Char) : Option Nat :=
  if '0' ≤ c ∧ c ≤ '9' then some (c.toNat - '0'.toNat)
  else if 'a' ≤ c ∧ c ≤ 'f' then some (c.toNat - 'a'.toNat + 10)
  else if 'A' ≤ c ∧ c ≤ 'F' then some (c.toNat - 'A'.toNat + 10)
  else none

/-- The value of four hexadecimal digits, and what follows them. -/
def readHex4 : List Char → Option (Nat × List Char)
  | a :: b :: c :: d :: rest => do
    let w ← hexDigit? a
    let x ← hexDigit? b
    let y ← hexDigit? c
    let z ← hexDigit? d
    return (((w * 16 + x) * 16 + y) * 16 + z, rest)
  | _ => none

/-- A piece of a text: a character, or a number of sixteen bits given by an escape. -/
inductive Piece
  /-- A character. -/
  | char (c : Char)
  /-- A number that is one character or half of one. -/
  | unit (n : Nat)

/-- The character that a short escape stands for. -/
def shortEscape? : Char → Option Char
  | '"' => some '"'
  | '\\' => some '\\'
  | '/' => some '/'
  | 'b' => some '\x08'
  | 'f' => some '\x0c'
  | 'n' => some '\n'
  | 'r' => some '\r'
  | 't' => some '\t'
  | _ => none

/-- The pieces of a text up to its closing quote, after those read before, the latest first. -/
def readPieces (seen : List Piece) : List Char → Option (List Piece × List Char)
  | [] => none
  | '"' :: rest => some (seen.reverse, rest)
  | '\\' :: 'u' :: a :: b :: c :: d :: rest => do
    let (n, _) ← readHex4 [a, b, c, d]
    readPieces (.unit n :: seen) rest
  | '\\' :: e :: rest => do readPieces (.char (← shortEscape? e) :: seen) rest
  | c :: rest => if c.toNat < 0x20 then none else readPieces (.char c :: seen) rest

/-- The characters that pieces make: two halves in a row make one character, and a half alone makes
none. -/
def charsOfPieces : List Piece → Option (List Char)
  | [] => some []
  | .char c :: rest => (charsOfPieces rest).map (c :: ·)
  | .unit n :: rest =>
    if n < 0xD800 ∨ 0xDFFF < n then (charsOfPieces rest).map (Char.ofNat n :: ·)
    else if n < 0xDC00 then
      match rest with
      | .unit m :: rest' =>
        if 0xDC00 ≤ m ∧ m ≤ 0xDFFF then
          (charsOfPieces rest').map
            (Char.ofNat (0x10000 + (n - 0xD800) * 0x400 + (m - 0xDC00)) :: ·)
        else none
      | _ => none
    else none

/-- A text whose opening quote has been read. -/
def readString (cs : List Char) : Option (Option String × List Char) :=
  (readPieces [] cs).map fun (pieces, rest) => ((charsOfPieces pieces).map String.ofList, rest)

/-- One digit or more. -/
def readDigits (cs : List Char) : Option (List Char × List Char) :=
  match cs.takeWhile Char.isDigit with
  | [] => none
  | ds => some (ds, cs.dropWhile Char.isDigit)

/-- The digits before the point: a zero alone, or digits that start with no zero. -/
def readWhole (cs : List Char) : Option (List Char × List Char) :=
  match readDigits cs with
  | some ('0' :: _ :: _, _) => none
  | other => other

/-- The digits behind a point, if there is a point. -/
def readFractionPart (cs : List Char) : Option (List Char × List Char) :=
  match cs with
  | '.' :: rest => (readDigits rest).map fun (ds, after) => ('.' :: ds, after)
  | _ => some ([], cs)

/-- The power of ten, if there is one. -/
def readPower (cs : List Char) : Option (List Char × List Char) :=
  match cs with
  | e :: rest =>
    if e = 'e' ∨ e = 'E' then
      match rest with
      | '+' :: ds => (readDigits ds).map fun (ds, after) => (e :: '+' :: ds, after)
      | '-' :: ds => (readDigits ds).map fun (ds, after) => (e :: '-' :: ds, after)
      | ds => (readDigits ds).map fun (ds, after) => (e :: ds, after)
    else some ([], cs)
  | [] => some ([], [])

/-- A number without its sign. -/
def readUnsigned (cs : List Char) : Option (List Char × List Char) := do
  let (whole, rest) ← readWhole cs
  let (fraction, rest) ← readFractionPart rest
  let (power, rest) ← readPower rest
  return (whole ++ fraction ++ power, rest)

/-- A number. -/
def readNumber (cs : List Char) : Option (List Char × List Char) :=
  match cs with
  | '-' :: rest => (readUnsigned rest).map fun (ds, after) => ('-' :: ds, after)
  | _ => readUnsigned cs

/-- A word, and the value it stands for. -/
def readWord (word : String) (v : Value) (cs : List Char) : Value × Option (List Char) :=
  if word.toList.isPrefixOf cs then (v, some (cs.drop word.length)) else (.broken, none)

mutual

/-- A value, and what follows it unless the reading stopped. -/
def readValue : Nat → List Char → Value × Option (List Char)
  | 0, _ => (.broken, none)
  | fuel + 1, cs =>
    match skipSpace cs with
    | [] => (.broken, none)
    | 'n' :: rest => readWord "null" .null ('n' :: rest)
    | 't' :: rest => readWord "true" (.bool true) ('t' :: rest)
    | 'f' :: rest => readWord "false" (.bool false) ('f' :: rest)
    | '"' :: rest =>
      match readString rest with
      | some (text, after) => (.string text, some after)
      | none => (.broken, none)
    | '[' :: rest =>
      match skipSpace rest with
      | ']' :: after => (.array [] true, some after)
      | start =>
        let (items, after) := readItems fuel start
        (.array items after.isSome, after)
    | '\x7b' :: rest =>
      match skipSpace rest with
      | '\x7d' :: after => (.object [] true, some after)
      | start =>
        let (members, after) := readMembers fuel start
        (.object members after.isSome, after)
    | start =>
      match readNumber start with
      | some (digits, after) => (.number (String.ofList digits), some after)
      | none => (.broken, none)

/-- The items of an array from one of them on, and what follows the closing bracket. -/
def readItems : Nat → List Char → List Value × Option (List Char)
  | 0, _ => ([], none)
  | fuel + 1, cs =>
    match readValue fuel cs with
    | (item, none) => ([item], none)
    | (item, some after) =>
      match skipSpace after with
      | ',' :: rest =>
        let (items, after) := readItems fuel rest
        (item :: items, after)
      | ']' :: rest => ([item], some rest)
      | _ => ([item], none)

/-- The members of an object from one of them on, and what follows the closing brace. -/
def readMembers : Nat → List Char → List (Option String × Value) × Option (List Char)
  | 0, _ => ([], none)
  | fuel + 1, cs =>
    match skipSpace cs with
    | '"' :: rest =>
      match readString rest with
      | none => ([], none)
      | some (key, after) =>
        match skipSpace after with
        | ':' :: rest =>
          match readValue fuel rest with
          | (v, none) => ([(key, v)], none)
          | (v, some after) =>
            match skipSpace after with
            | ',' :: rest =>
              let (members, after) := readMembers fuel rest
              ((key, v) :: members, after)
            | '\x7d' :: rest => ([(key, v)], some rest)
            | _ => ([(key, v)], none)
        | _ => ([(key, .broken)], none)
    | _ => ([], none)

end

/-- The value at the start of a text, and whether nothing but white space follows it. -/
def read (text : String) : Value × Bool :=
  match readValue (2 * text.length + 1) text.toList with
  | (v, none) => (v, false)
  | (v, some rest) => (v, (skipSpace rest).isEmpty)

end EntityForge.Json
