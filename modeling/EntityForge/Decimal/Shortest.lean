import EntityForge.Word

/-!
# Shortest decimals of binary numbers

A finite double is an integer times a power of two. Among the decimals that lie closer to it than to
any other double, or half way where the integer is even, the shortest is the one with the fewest
digits, and of those the nearest. It is found on the grids of one, two, … seventeen digits in exact
arithmetic: a grid has a point in the interval exactly when one of the two neighbours of the value
lies in it.
-/

namespace EntityForge

/-- A decimal: an integer times a power of ten. -/
structure Decimal where
  /-- The integer. -/
  digits : Nat
  /-- The power of ten. -/
  exponent : Int
  deriving DecidableEq, Repr

namespace Decimal

/-- A finite positive binary number with the ends of the interval that rounds to it, all in units of
a power of two. -/
structure Binary where
  /-- The lower end. -/
  low : Nat
  /-- The number. -/
  value : Nat
  /-- The upper end. -/
  high : Nat
  /-- The power of two. -/
  exponent : Int
  /-- Whether the ends belong to the interval. -/
  closed : Bool

/-- The binary number of the bits of a finite positive double. -/
def Binary.ofBits (bits : Nat) : Binary :=
  let fraction := bits % Word.count 52
  let biased := bits / Word.count 52 % Word.count 11
  let m := if biased = 0 then fraction else fraction + Word.count 52
  let q : Int := (if biased = 0 then 1 else (biased : Int)) - 1075
  let narrow := fraction = 0 ∧ 1 < biased
  ⟨if narrow then 4 * m - 1 else 4 * m - 2, 4 * m, 4 * m + 2, q - 2, m % 2 == 0⟩

/-- A power with an integer exponent as a numerator, one if the exponent is negative. -/
def powUp (base : Nat) (e : Int) : Nat :=
  Nat.pow base e.toNat

/-- The least number of steps, up to a bound, after which ten times as much reaches a goal. -/
def stepsToReach (goal : Nat) : Nat → Nat → Nat
  | 0, _ => 0
  | fuel + 1, n => if goal ≤ n then 0 else stepsToReach goal fuel (10 * n) + 1

/-- The position of the first decimal digit of a positive quotient. -/
def leadingExponent (num den : Nat) : Int :=
  if den ≤ num then ((Nat.toDigits 10 (num / den)).length : Int) - 1
  else -(stepsToReach den 400 num : Int)

/-- The decimal of a grid that lies in the interval, if there is one. -/
def Binary.onGrid? (b : Binary) (k : Int) : Option Decimal :=
  let scale := powUp 2 b.exponent * powUp 10 (-k)
  let den := powUp 2 (-b.exponent) * powUp 10 k
  let below := b.value * scale / den
  let inside (c : Nat) : Bool :=
    if b.closed then b.low * scale ≤ c * den && c * den ≤ b.high * scale
    else b.low * scale < c * den && c * den < b.high * scale
  let above := below + 1
  let toBelow := b.value * scale - below * den
  let toAbove := above * den - b.value * scale
  match inside below, inside above with
  | true, true =>
    if toBelow < toAbove ∨ (toBelow = toAbove ∧ below % 2 = 0) then some ⟨below, k⟩
    else some ⟨above, k⟩
  | true, false => some ⟨below, k⟩
  | false, true => some ⟨above, k⟩
  | false, false => none

/-- The shortest decimal of a binary number. -/
def Binary.shortest (b : Binary) : Decimal :=
  let first := leadingExponent (b.value * powUp 2 b.exponent) (powUp 2 (-b.exponent))
  ((List.range 18).findSome? fun (n : Nat) => b.onGrid? (first - (n : Int))).getD ⟨0, 0⟩

/-- A decimal without zeros at the end of its digits. -/
def reduced (fuel : Nat) (d : Decimal) : Decimal :=
  match fuel with
  | 0 => d
  | n + 1 =>
    if d.digits ≠ 0 ∧ d.digits % 10 = 0 then
      reduced n ⟨d.digits / 10, d.exponent + 1⟩
    else d

/-- A number of zeros. -/
def zeros (n : Int) : List Char :=
  List.replicate n.toNat '0'

/-- The digits of a decimal with a point in place, and at least one digit on each side of it. -/
def positional (d : Decimal) : List Char :=
  let ds := Nat.toDigits 10 d.digits
  let point : Int := ds.length + d.exponent
  if 0 ≤ d.exponent then ds ++ zeros d.exponent ++ ['.', '0']
  else if 0 < point then ds.take point.toNat ++ '.' :: ds.drop point.toNat
  else '0' :: '.' :: (zeros (-point) ++ ds)

/-- Where the digits of a number are written with a power of ten instead of in place. -/
structure NumberFormat where
  /-- The least position of the point, counted from the first digit, that is written in place. -/
  leastPoint : Int
  /-- The greatest one. -/
  greatestPoint : Int
  /-- Whether a power of ten that is not negative has a plus sign. -/
  plusSign : Bool := false
  /-- The least number of digits of a power of ten. -/
  powerDigits : Nat := 1

/-- The format that never uses a power of ten. -/
def NumberFormat.plain : NumberFormat := { leastPoint := -2000, greatestPoint := 2000 }

/-- The format that keeps to about sixteen digits in place; every power of ten has a sign and two
digits or more. -/
def NumberFormat.signed : NumberFormat :=
  { leastPoint := -4, greatestPoint := 16, plusSign := true, powerDigits := 2 }

/-- The digits of a decimal with the point behind the first of them, and the power of ten. -/
def scientific (format : NumberFormat) (d : Decimal) : List Char :=
  let ds := Nat.toDigits 10 d.digits
  let power : Int := ds.length + d.exponent - 1
  let body := match ds with
    | [] => []
    | [c] => [c]
    | c :: rest => c :: '.' :: rest
  let sign := if power < 0 then ['-'] else if format.plusSign then ['+'] else []
  let places := Nat.toDigits 10 power.natAbs
  body ++ 'e' :: sign ++ zeros (format.powerDigits - places.length) ++ places

/-- The text of a double. -/
def text (format : NumberFormat) (x : Float) : String :=
  let bits := x.toBits.toNat
  let sign := if bits / Word.count 63 = 1 then "-" else ""
  let magnitude := bits % Word.count 63
  if x.isNaN then "NaN"
  else if x.isInf then sign ++ "inf"
  else if magnitude = 0 then sign ++ "0.0"
  else
    let d := ((Binary.ofBits magnitude).shortest).reduced 400
    let point : Int := (Nat.toDigits 10 d.digits).length + d.exponent
    if format.leastPoint ≤ point ∧ point ≤ format.greatestPoint then
      sign ++ String.ofList d.positional
    else sign ++ String.ofList (d.scientific format)

end Decimal

end EntityForge
