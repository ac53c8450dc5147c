import EntityForge.Decimal.Fixed
import EntityForge.Template.Argument

/-!
# Texts with places for values

A text may hold places, each a percent sign with flags, a width, a precision and a letter that says
how the next value is written there. Two percent signs stand for one. Values that are left over are
not used.
-/

namespace EntityForge.Template

/-- How a value is written at a place. -/
structure Spec where
  /-- Whether blanks are put behind the value instead of before it. -/
  left : Bool := false
  /-- Whether a number that is not negative gets a plus sign. -/
  plus : Bool := false
  /-- Whether a number that is not negative gets a blank. -/
  blank : Bool := false
  /-- Whether zeros are put before a number instead of blanks. -/
  zeros : Bool := false
  /-- Whether the base of a number is shown. -/
  base : Bool := false
  /-- The least length. -/
  width : Nat := 0
  /-- The number of digits behind a point or the greatest length. -/
  precision : Option Nat := none

namespace Spec

/-- The flags before a width. -/
def readFlags (s : Spec) : List Char → Spec × List Char
  | '-' :: rest => readFlags { s with left := true } rest
  | '+' :: rest => readFlags { s with plus := true } rest
  | ' ' :: rest => readFlags { s with blank := true } rest
  | '0' :: rest => readFlags { s with zeros := true } rest
  | '#' :: rest => readFlags { s with base := true } rest
  | rest => (s, rest)

/-- What stands between a percent sign and a letter. -/
def read (cs : List Char) : Spec × List Char :=
  let (s, rest) := readFlags {} cs
  let s := { s with width := (Text.digits? (rest.takeWhile Char.isDigit)).getD 0 }
  match rest.dropWhile Char.isDigit with
  | '.' :: rest =>
    ({ s with precision := some ((Text.digits? (rest.takeWhile Char.isDigit)).getD 0) },
      rest.dropWhile Char.isDigit)
  | rest => (s, rest)

/-- Blanks that a text lacks. -/
def missing (s : Spec) (length : Nat) (c : Char) : String :=
  String.ofList (List.replicate (s.width - length) c)

/-- A text in its width. -/
def padded (s : Spec) (text : String) : String :=
  if s.left then text ++ s.missing text.length ' ' else s.missing text.length ' ' ++ text

/-- The sign of a number. -/
def sign (s : Spec) (negative : Bool) : String :=
  if negative then "-" else if s.plus then "+" else if s.blank then " " else ""

/-- A number in its width: what stands before its digits, and the digits. -/
def number (s : Spec) (front digits : String) : String :=
  if s.zeros && !s.left then front ++ s.missing (front.length + digits.length) '0' ++ digits
  else s.padded (front ++ digits)

/-- An integer of a base. -/
def integer (s : Spec) (base : Nat) (mark : String) (n : Int) : String :=
  let ds := Nat.toDigits base n.natAbs
  let zeros := List.replicate (s.precision.getD 0 - ds.length) '0'
  s.number (s.sign (n < 0) ++ if s.base then mark else "") (String.ofList (zeros ++ ds))

/-- A double, whose digits are written by a function. -/
def double (s : Spec) (digits : Float → String) (x : Float) : String :=
  if x.isNaN then s.padded "nan"
  else
    let front := s.sign (x < 0.0 || Exact.place x < 0)
    if x.isInf then s.padded (front ++ "inf") else s.number front (digits x)

end Spec

/-- The words for a conversion. -/
def conversionWords (letter : Char) : String :=
  if letter = 'x' ∨ letter = 'X' then "hexadecimal"
  else if letter = 'o' then "octal"
  else if ['d', 'i', 'u'].contains letter then "decimal"
  else "floating point"

/-- A value that cannot be written at a place. -/
def unwritable (v : Value) (letter : Char) (offset : Nat) : Error :=
  .invalid (s!"invalid format spec at offset {offset}; '{v.kind.words}' cannot be formatted in " ++
    conversionWords letter ++ s!" format ('{letter}')")

/-- A value at a place, in the way of a letter. -/
def written (s : Spec) (letter : Char) (offset : Nat) (v : Value) : Except Error String :=
  let refused : Error := unwritable v letter offset
  let integer (base : Nat) (mark : String) : Except Error String :=
    match v.asSigned? with
    | some n => return s.integer base mark n
    | none => throw refused
  let double (digits : Nat → Float → String) : Except Error String :=
    match v.asFloat? false with
    | some x => return s.double (digits (s.precision.getD 6)) x
    | none => throw refused
  match letter with
  | 's' =>
    let cs := v.shown.toList
    return s.padded (String.ofList (s.precision.elim cs cs.take))
  | 'd' | 'i' | 'u' => integer 10 ""
  | 'x' => integer 16 "0x"
  | 'X' => String.toUpper <$> integer 16 "0x"
  | 'o' => integer 8 "0o"
  | 'f' | 'F' => double Decimal.fixed
  | 'e' => double (Decimal.withPower "e")
  | 'E' => double (Decimal.withPower "E")
  | 'g' => double (Decimal.general "e")
  | 'G' => double (Decimal.general "E")
  | _ => throw (.invalid s!"invalid conversion type '{letter}' in format spec at offset {offset}")

/-- Whether a letter says how a value is written. -/
def isConversion (c : Char) : Bool :=
  "sdiuxXofFeEgG".toList.contains c

/-- A text with values at its places; `offset` is the number of bytes before it. -/
def filledFrom : Nat → Nat → List Char → List Value → Except Error String
  | 0, _, _, _ => return ""
  | _, _, [], _ => return ""
  | n + 1, offset, '%' :: cs, values => do
    let offset := offset + 1
    match cs with
    | '%' :: rest => return "%" ++ (← filledFrom n (offset + 1) rest values)
    | _ =>
      let (spec, rest) := Spec.read cs
      match rest with
      | [] =>
        throw (.invalid s!"incomplete format spec at offset {offset}; missing conversion type")
      | letter :: rest =>
        let next := offset + ((cs.take (cs.length - rest.length)).map Char.utf8Size).foldl (· + ·) 0
        if !isConversion letter then
          throw (.invalid
            s!"invalid conversion type '{letter}' in format spec at offset {offset}")
        match values with
        | [] =>
          throw (.invalid s!"missing an argument for format spec at offset '{offset}'")
        | v :: values =>
          let text ← written spec letter offset v
          return text ++ (← filledFrom n next rest values)
  | n + 1, offset, c :: cs, values => do
    return c.toString ++ (← filledFrom n (offset + c.utf8Size) cs values)

/-- A text with values at its places. -/
def filled (s : String) (values : List Value) : Except Error String :=
  filledFrom (s.length + 1) 0 s.toList values

end EntityForge.Template
