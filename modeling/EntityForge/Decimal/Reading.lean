import EntityForge.Text.Numeral

/-!
# Reading of decimals

A written decimal has digits, possibly a point with further digits, and possibly a power of ten. It
stands for the double nearest to it. Behind a sign there may also be a word for a value that has no
digits.
-/

namespace EntityForge.Decimal

/-- The double nearest to a number times a power of ten. Far outside the range of doubles it is zero
or infinite, and the power need not be calculated. -/
def scaled (mantissa : Nat) (power : Int) : Float :=
  let size : Int := (Nat.toDigits 10 mantissa).length + power
  if mantissa = 0 ∨ size < -400 then 0.0
  else if 400 < size then 1.0 / 0.0
  else Float.ofScientific mantissa (power < 0) power.natAbs

/-- The double that a written decimal without a sign stands for. -/
def read? (cs : List Char) : Option Float := do
  let whole := cs.takeWhile Char.isDigit
  let (fraction, rest) := match cs.dropWhile Char.isDigit with
    | '.' :: rest => (rest.takeWhile Char.isDigit, rest.dropWhile Char.isDigit)
    | rest => ([], rest)
  let mantissa ← Text.digits? (whole ++ fraction)
  let power ← match rest with
    | [] => some 0
    | e :: ds => if e = 'e' ∨ e = 'E' then Text.integer? ds else none
  return scaled mantissa (power - fraction.length)

/-- The double that a written decimal stands for, which may have a sign, or the words for what is
infinite or no number. -/
def signed? (cs : List Char) : Option Float :=
  let (negative, rest) := match cs with
    | '-' :: rest => (true, rest)
    | '+' :: rest => (false, rest)
    | rest => (false, rest)
  let word := String.ofList (rest.map Char.toLower)
  let found :=
    if word = "inf" ∨ word = "infinity" then some (1.0 / 0.0)
    else if word = "nan" then some (0.0 / 0.0)
    else read? rest
  found.map fun x => if negative then -x else x

end EntityForge.Decimal
