import EntityForge.Template.Shown
import EntityForge.Word

/-!
# Numbers and the order of values

Two values are brought to one type before they are compared or calculated with. Values of different
sorts are ordered by their sort; equality, however, looks at truth values as at numbers. An integer
is compared with a double exactly: it is turned into a double only if none of it is lost.
-/

namespace EntityForge.Template

namespace Value

/-! ### Numbers of one type -/

/-- Two values of one type. -/
inductive Coerced
  /-- Two integers. -/
  | integers (a b : Int)
  /-- Two doubles. -/
  | floats (a b : Float)
  /-- Two texts. -/
  | texts (a b : String)

/-- Whether an integer is kept without a sign in more than 64 bits. -/
def isWide (n : Int) (unsigned : Bool) : Bool :=
  unsigned && decide ((Word.count 64 : Int) ≤ n)

/-- An integer of 128 bits, read as one with a sign. -/
def wrapped (n : Int) : Int :=
  if n < Word.count 127 then n else n - Word.count 128

/-- A value as an integer of 128 bits with a sign. -/
def asSigned? : Value → Option Int
  | bool b => some (if b then 1 else 0)
  | integer n _ => if n < Word.count 127 then some n else Option.none
  | float x =>
    let n := x.toInt64.toInt
    if x.isFinite && Float.ofInt n == x then some n else Option.none
  | _ => Option.none

/-- The double that an integer rounds to. -/
def floatOfInt (n : Int) : Float :=
  if 0 ≤ n then Float.ofScientific n.natAbs false 0 else -(Float.ofScientific n.natAbs false 0)

/-- Whether the double that an integer rounds to still tells it, given that the reading back stops
at the end of the range. -/
def survives (n : Int) (unsigned : Bool) : Bool :=
  let (low, high) : Int × Int :=
    if isWide n unsigned then (0, Word.count 128 - 1)
    else if unsigned then (0, Word.count 64 - 1)
    else if Word.Signed 63 n then (-Word.count 63, Word.count 63 - 1)
    else (-Word.count 127, Word.count 127 - 1)
  max low (min high (Exact.ofFloat (floatOfInt n)).whole) == n

/-- A number as a double; if `exact`, only where none of it is lost. -/
def asFloat? (exact : Bool) : Value → Option Float
  | bool b => some (if b then 1.0 else 0.0)
  | integer n unsigned =>
    if exact && !survives n unsigned then Option.none else some (floatOfInt n)
  | float x => some x
  | _ => Option.none

/-- Two values as two of one type. -/
def coerce? (exact : Bool) : Value → Value → Option Coerced
  | text a _, text b _ => some (.texts a b)
  | float a, b => (b.asFloat? exact).map (.floats a)
  | a, float b => (a.asFloat? exact).map (.floats · b)
  | integer m u, integer n w =>
    if isWide m u && isWide n w then some (.integers (wrapped m) (wrapped n))
    else do return .integers (← asSigned? (integer m u)) (← asSigned? (integer n w))
  | a, b => do return .integers (← a.asSigned?) (← b.asSigned?)

/-! ### Order -/

/-- The order of an integer and a double. -/
def orderWithFloat (n : Int) (x : Float) : Ordering :=
  if x.isFinite then (Exact.ofFloat x).compareInt n
  else if 0 ≤ Exact.place x then .lt else .gt

/-- The order of two numbers or two truth values. -/
def orderNumbers (a b : Value) : Ordering :=
  match coerce? true a b with
  | some (.integers m n) => compare m n
  | some (.floats x y) => compare (Exact.place x) (Exact.place y)
  | some (.texts s t) => compare s t
  | Option.none =>
    match a, b with
    | integer m _, integer n _ => compare m n
    | integer m _, float y => orderWithFloat m y
    | float x, integer n _ => (orderWithFloat n x).swap
    | _, _ => .eq

/-- The items of a value and, of a map, the values at them, for a comparison one after another. -/
def sequel : Value → List Value
  | list items | iterable items _ => items
  | group key items => [key, ofItems items]
  | dict pairs => pairs.flatMap fun (key, v) => [key, v]
  | v => (v.members?.getD []).flatMap fun (name, w) => [ofString name, w]

mutual

/-- The order of two values; `n` bounds how deep values stand inside each other. -/
def orderUpTo : Nat → Value → Value → Ordering
  | 0, _, _ => .eq
  | n + 1, a, b =>
    (compare a.kind.rank b.kind.rank).then
      (match a.kind with
        | .undefined | .none => .eq
        | .bool | .number | .string => orderNumbers a b
        | .sequence | .map | .iterable => orderAll n a.sequel b.sequel
        | .plain => compare a.shown b.shown)

/-- The order of two lists. -/
def orderAll : Nat → List Value → List Value → Ordering
  | 0, _, _ => .eq
  | _, [], [] => .eq
  | _, [], _ => .lt
  | _, _, [] => .gt
  | n + 1, a :: as, b :: bs => (orderUpTo n a b).then (orderAll n as bs)

end

/-- How deep values are compared, and how far lists. -/
def comparisonBound : Nat := 10000000

/-- The order of two values. -/
def order (a b : Value) : Ordering := orderUpTo comparisonBound a b

/-! ### Equality -/

/-- The value at a key of a map's members. -/
def lookupPair? (key : Value) (pairs : List (Value × Value)) : Option Value :=
  (pairs.find? fun (k, _) => order k key == .eq).map (·.2)

mutual

/-- Whether two values are equal; `n` bounds how deep values stand inside each other. -/
def sameUpTo : Nat → Value → Value → Bool
  | 0, _, _ => true
  | n + 1, a, b =>
    match coerce? true a b with
    | some (.integers m k) => m == k
    | some (.floats x y) => x == y
    | some (.texts s t) => s == t
    | Option.none =>
      match a.kind, b.kind with
      | .undefined, .undefined | .none, .none => true
      | .map, .map =>
        let left := a.pairs?.getD []
        let right := b.pairs?.getD []
        left.length == right.length && sameMembers n right left
      | .sequence, .sequence | .sequence, .iterable | .iterable, .sequence
      | .iterable, .iterable => sameAll n (a.contents?.getD []) (b.contents?.getD [])
      | .plain, .plain => a.shown == b.shown
      | _, _ => false

/-- Whether two lists hold equal values. -/
def sameAll : Nat → List Value → List Value → Bool
  | 0, _, _ => true
  | _, [], [] => true
  | n + 1, a :: as, b :: bs => sameUpTo n a b && sameAll n as bs
  | _, _, _ => false

/-- Whether a map has some members, too. -/
def sameMembers : Nat → List (Value × Value) → List (Value × Value) → Bool
  | 0, _, _ => true
  | _, _, [] => true
  | n + 1, pairs, (key, v) :: rest =>
    match lookupPair? key pairs with
    | some w => sameUpTo n v w && sameMembers n pairs rest
    | Option.none => false

end

/-- Whether two values are equal. -/
def same (a b : Value) : Bool := sameUpTo comparisonBound a b

end Value

end EntityForge.Template
