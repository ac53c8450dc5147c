import EntityForge.Decimal.Shortest
import EntityForge.Text.Numeral
import EntityForge.Word

/-!
# What a written number stands for

A number without fraction and power is an integer if it fits in 64 bits, with its sign; minus zero
and all other numbers are floating point. A floating point number is computed from as many leading
digits as fit in 64 bits and a power of ten, and is out of range if it is too large for a double.
-/

namespace EntityForge.Json

/-- The value of a written number. -/
inductive Number
  /-- An integer that is not negative. -/
  | natural (n : Nat)
  /-- A negative integer, by its magnitude. -/
  | negative (n : Nat)
  /-- A floating point number. -/
  | float (x : Float)
  /-- A number that no double comes near. -/
  | outOfRange

/-- The digits of a written number and its power of ten. -/
structure Digits where
  /-- The leading digits, as a number below `2 ^ 64`. -/
  significand : Nat := 0
  /-- The power of ten. -/
  exponent : Int := 0

/-- Whether a digit can be added to the leading digits. -/
def Digits.fits (d : Digits) (digit : Nat) : Bool :=
  d.significand * 10 + digit < Word.count 64

/-- The digits before the point, which count as a power of ten once they no longer fit. -/
def Digits.addWhole (d : Digits) : List Char → Digits
  | [] => d
  | c :: cs =>
    let digit := c.toNat - '0'.toNat
    if d.fits digit then addWhole { d with significand := d.significand * 10 + digit } cs
    else { d with exponent := (cs.length : Int) + 1 }

/-- The digits behind the point, which are passed over once one no longer fits. -/
def Digits.addFraction (d : Digits) : List Char → Digits
  | [] => d
  | c :: cs =>
    let digit := c.toNat - '0'.toNat
    if d.fits digit then addFraction ⟨d.significand * 10 + digit, d.exponent - 1⟩ cs
    else d

/-- A power of ten as a double. -/
def powerOfTen (n : Nat) : Float :=
  Float.ofScientific 1 false n

/-- A double times a power of ten, taken in steps of at most `10 ^ 308`. -/
def scale (fuel : Nat) (x : Float) (e : Int) : Option Float :=
  match fuel with
  | 0 => some x
  | n + 1 =>
    if e.natAbs ≤ 308 then
      if 0 ≤ e then
        let y := x * powerOfTen e.natAbs
        if y.isInf then none else some y
      else some (x / powerOfTen e.natAbs)
    else if x == 0.0 then some x
    else if 0 ≤ e then none
    else scale n (x / 1e308) (e + 308)

/-- The value of a number written without its sign. -/
def Number.ofUnsigned (negative : Bool) (cs : List Char) : Number :=
  let whole := cs.takeWhile Char.isDigit
  let rest := cs.dropWhile Char.isDigit
  let (fraction, rest) := match rest with
    | '.' :: r => (r.takeWhile Char.isDigit, r.dropWhile Char.isDigit)
    | r => ([], r)
  let isInteger := fraction.isEmpty && rest.isEmpty
  let value := (Text.digits? whole).getD 0
  if isInteger && !negative && value < Word.count 64 then .natural value
  else if isInteger && negative && value ≠ 0 && value ≤ Word.count 63 then .negative value
  else
    let d := (Digits.addWhole {} whole).addFraction fraction
    let power : Int := match rest with
      | _ :: '-' :: ds => -((Text.digits? ds).getD 0 : Int)
      | _ :: '+' :: ds => ((Text.digits? ds).getD 0 : Int)
      | _ :: ds => ((Text.digits? ds).getD 0 : Int)
      | [] => 0
    let sign (x : Float) : Float := if negative then -x else x
    if d.significand = 0 then .float (sign 0.0)
    else if power < -100000 then .float (sign 0.0)
    else
      match scale 1000 (Float.ofNat d.significand) (d.exponent + power) with
      | some x => .float (sign x)
      | none => .outOfRange

/-- The value of a written number. -/
def Number.ofText (text : String) : Number :=
  match text.toList with
  | '-' :: cs => ofUnsigned true cs
  | cs => ofUnsigned false cs

end EntityForge.Json
