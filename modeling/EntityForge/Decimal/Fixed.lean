import EntityForge.Decimal.Exact
import EntityForge.Decimal.Shortest
import EntityForge.Text.Numeral

/-!
# Decimals with a given number of digits

A finite double is written with a given number of digits behind the point, or with one digit before
the point and a power of ten. The last digit is rounded from the exact value, and half way it
becomes even. The sign is left out.
-/

namespace EntityForge.Decimal

/-- The integer nearest to a quotient, the even one half way. -/
def nearest (num den : Nat) : Nat :=
  let q := num / den
  let twice := 2 * (num % den)
  if twice < den then q else if den < twice then q + 1 else q + q % 2

/-- A finite double without its sign as a quotient. -/
def quotient (x : Float) : Nat × Nat :=
  let d := Exact.ofFloat x
  (d.mantissa.natAbs * powUp 2 d.exponent, powUp 2 (-d.exponent))

/-- Digits with a point before the last ones of them. -/
def pointed (places n : Nat) : String :=
  let ds := (Text.padded (places + 1) n).toList
  let whole := String.ofList (ds.take (ds.length - places))
  if places = 0 then whole else whole ++ "." ++ String.ofList (ds.drop (ds.length - places))

/-- A double with a number of digits behind the point. -/
def fixed (places : Nat) (x : Float) : String :=
  let (num, den) := quotient x
  pointed places (nearest (num * Nat.pow 10 places) den)

/-- The digits of a double, one and some more, and the power of ten of the first of them. -/
def leadingDigits (places : Nat) (x : Float) : Nat × Int :=
  let (num, den) := quotient x
  if num = 0 then (0, 0)
  else
    let e := leadingExponent num den
    let shift := (places : Int) - e
    let n := nearest (num * powUp 10 shift) (den * powUp 10 (-shift))
    if n = Nat.pow 10 (places + 1) then (n / 10, e + 1) else (n, e)

/-- A power of ten as it is written behind a number. -/
def exponentText (mark : String) (e : Int) : String :=
  mark ++ (if e < 0 then "-" else "+") ++ Text.padded 2 e.natAbs

/-- A double with one digit before the point, a number of digits behind it and a power of ten. -/
def withPower (mark : String) (places : Nat) (x : Float) : String :=
  let (n, e) := leadingDigits places x
  pointed places n ++ exponentText mark e

/-- A text without zeros at the end of what stands behind a point. -/
def withoutZeros (s : String) : String :=
  if s.toList.contains '.' then
    let cs := s.toList.reverse.dropWhile (· == '0')
    String.ofList (if cs.head? = some '.' then cs.tail else cs).reverse
  else s

/-- A double with a number of digits in all, with a power of ten only if it is far from one. -/
def general (mark : String) (digits : Nat) (x : Float) : String :=
  let digits := max digits 1
  let (n, e) := leadingDigits (digits - 1) x
  if -4 ≤ e ∧ e < digits then withoutZeros (fixed ((digits : Int) - 1 - e).toNat x)
  else withoutZeros (pointed (digits - 1) n) ++ exponentText mark e

end EntityForge.Decimal
