import EntityForge.Word

/-!
# Decimal numerals in a bounded range

A numeral is one or more ASCII digits, with any number of leading zeros, behind an optional sign. It
is read exactly and refused when its value falls outside the range asked for: nothing wraps around.
-/

namespace EntityForge.Text

/-- The value of an ASCII decimal digit. -/
def digit? (c : Char) : Option Nat :=
  if '0' ≤ c ∧ c ≤ '9' then some (c.toNat - '0'.toNat) else none

/-- The value of the digits, read on from the value of those before them. -/
def digitsFrom? (value : Nat) : List Char → Option Nat
  | [] => some value
  | c :: cs => (digit? c).bind fun d => digitsFrom? (10 * value + d) cs

/-- The value of one or more digits. -/
def digits? : List Char → Option Nat
  | [] => none
  | cs => digitsFrom? 0 cs

/-- The value of a numeral that may carry a plus sign. -/
def natural? : List Char → Option Nat
  | '+' :: cs => digits? cs
  | cs => digits? cs

/-- The value of a numeral that may carry a plus or a minus sign. -/
def integer? : List Char → Option Int
  | '-' :: cs => (digits? cs).map fun n => -(n : Int)
  | cs => (natural? cs).map Int.ofNat

/-- The value of a numeral between zero and `2 ^ 32 - 1`. -/
def word32? (s : String) : Option UInt32 :=
  (natural? s.toList).bind fun n =>
    if n < Word.count 32 then some (UInt32.ofNat n) else none

/-- The value of a numeral between `-2 ^ 63` and `2 ^ 63 - 1`. -/
def signed64? (s : String) : Option Int :=
  (integer? s.toList).bind fun n =>
    if Word.Signed 63 n then some n else none

/-- The decimal digits of a number, with zeros in front up to a width. -/
def padded (width n : Nat) : String :=
  let ds := Nat.toDigits 10 n
  String.ofList (List.replicate (width - ds.length) '0' ++ ds)

end EntityForge.Text
