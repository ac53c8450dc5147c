import EntityForge.Word

/-!
# Doubles as exact numbers

A finite double is an integer times a power of two. What is done here with doubles is done on these
two numbers, so that nothing is rounded on the way: the comparison with an integer, the whole part
and the remainder, which is always a double again.
-/

namespace EntityForge

/-- An integer times a power of two. -/
structure Exact where
  /-- The integer. -/
  mantissa : Int
  /-- The power of two. -/
  exponent : Int
  deriving DecidableEq, Repr

namespace Exact

/-- The exact value of a finite double. -/
def ofFloat (x : Float) : Exact :=
  let bits := x.toBits.toNat
  let fraction := bits % Word.count 52
  let biased := bits / Word.count 52 % Word.count 11
  let m : Nat := if biased = 0 then fraction else fraction + Word.count 52
  let q : Int := (if biased = 0 then 1 else (biased : Int)) - 1075
  ⟨if bits / Word.count 63 = 1 then -(m : Int) else m, q⟩

/-- The integer in units of a power of two that is no greater than the one it has. -/
def inUnits (d : Exact) (unit : Int) : Int :=
  d.mantissa * (Word.count (d.exponent - unit).toNat : Nat)

/-- The order of an integer and an exact number. -/
def compareInt (n : Int) (d : Exact) : Ordering :=
  let unit := min d.exponent 0
  compare (n * (Word.count (-unit).toNat : Nat)) (d.inUnits unit)

/-- The whole part, toward zero. -/
def whole (d : Exact) : Int :=
  if 0 ≤ d.exponent then d.inUnits 0
  else Int.tdiv d.mantissa (Word.count (-d.exponent).toNat : Nat)

/-- What is left of a double when another one is taken from it as often as possible; it has the sign
of the first. -/
def remainder (x y : Float) : Float :=
  if x.isNaN || y.isNaN || x.isInf || y == 0.0 then 0.0 / 0.0
  else if y.isInf then x
  else
    let a := Exact.ofFloat x
    let b := Exact.ofFloat y
    let unit := min a.exponent b.exponent
    let left := (a.inUnits unit).natAbs % (b.inUnits unit).natAbs
    let r := (Float.ofScientific left false 0).scaleB unit
    if x.toBits.toNat / Word.count 63 = 1 then -r else r

/-- A double without its fraction. -/
def truncated (x : Float) : Float :=
  if x < 0.0 then x.ceil else x.floor

/-- The quotient of doubles that leaves no negative remainder. -/
def floorQuotient (x y : Float) : Float :=
  let q := truncated (x / y)
  if remainder x y < 0.0 then (if y > 0.0 then q - 1.0 else q + 1.0) else q

/-- A double as an integer, toward zero; one beyond the range of 128 bits becomes the end of the
range, and what is no number becomes zero. -/
def wholeNumber (x : Float) : Int :=
  let high : Int := (Word.count 127 : Nat)
  if x.isNaN then 0
  else if x.isInf then (if x < 0.0 then -high else high - 1)
  else max (-high) (min (high - 1) (Exact.ofFloat x).whole)

/-- The place of a double in the order in which zero below zero comes before zero and what is no
number comes at the ends. -/
def place (x : Float) : Int :=
  let bits := x.toBits.toNat
  if bits / Word.count 63 = 1 then -((bits % Word.count 63 : Nat) : Int) - 1 else (bits : Int)

end Exact

end EntityForge
