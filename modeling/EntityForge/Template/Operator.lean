import EntityForge.Template.Member

/-!
# Operators of templates

What the operators of expressions do to values. Integers are exact as long as they fit 128 bits, and
a quotient is always a double. Lists that are joined, repeated or cut out are no lists any more, but
can be gone through. A value that is missing by mistake can be compared with nothing.
-/

namespace EntityForge.Template

/-! ### Parts of texts -/

/-- Whether a text stands somewhere in another one. -/
def containsText (part : List Char) : List Char → Bool
  | [] => part.isEmpty
  | c :: cs => part.isPrefixOf (c :: cs) || containsText part cs

/-! ### Operators in words -/

namespace BinaryOp

/-- An operator as it is written. -/
def sign : BinaryOp → String
  | and => "and"
  | or => "or"
  | eq => "=="
  | ne => "!="
  | lt => "<"
  | le => "<="
  | gt => ">"
  | ge => ">="
  | contained => "in"
  | add => "+"
  | sub => "-"
  | concat => "~"
  | mul => "*"
  | div => "/"
  | floorDiv => "//"
  | rem => "%"
  | pow => "**"

end BinaryOp

namespace Value

/-- An operator that is not for values of some sorts. -/
def impossible (op : BinaryOp) (a b : Value) : Error :=
  .invalid
    s!"tried to use {op.sign} operator on unsupported types {a.kind.words} and {b.kind.words}"

/-- An operator whose result is no number. -/
def failed (op : BinaryOp) (a b : Value) : Error :=
  .invalid s!"unable to calculate {a.shown} {op.sign} {b.shown}"

/-- An integer that fits 128 bits. -/
def fitted (op : BinaryOp) (a b : Value) (n : Int) : Except Error Value :=
  if Word.Signed 127 n then return ofInt n else throw (failed op a b)

/-! ### Arithmetic -/

/-- An operator on integers. -/
def integerOp (op : BinaryOp) (a b : Value) (m n : Int) : Except Error Value :=
  match op with
  | .add => fitted op a b (m + n)
  | .sub => fitted op a b (m - n)
  | .mul => fitted op a b (m * n)
  | .floorDiv => if n = 0 then throw (failed op a b) else fitted op a b (m / n)
  | .rem =>
    if n = 0 ∨ (n = -1 ∧ m = -(Word.count 127 : Nat)) then throw (failed op a b)
    else fitted op a b (m % n)
  | .pow =>
    if n < 0 ∨ (2 ≤ m.natAbs ∧ 128 ≤ n) ∨ Word.count 32 ≤ n then throw (failed op a b)
    else if m.natAbs ≤ 1 then
      return ofInt (if n = 0 then 1 else if m = -1 then (if n % 2 = 0 then 1 else -1) else m)
    else fitted op a b (Int.pow m n.toNat)
  | _ => throw (impossible op a b)

/-- An operator on doubles. -/
def floatOp (op : BinaryOp) (a b : Value) (x y : Float) : Except Error Value :=
  match op with
  | .add => return float (x + y)
  | .sub => return float (x - y)
  | .mul => return float (x * y)
  | .floorDiv => return float (Exact.floorQuotient x y)
  | .rem => return float (Exact.remainder x y)
  | .pow => return float (Float.pow x y)
  | _ => throw (impossible op a b)

/-- An operator on what can be brought to one type. -/
def coercedOp (op : BinaryOp) (a b : Value) : Except Error Value :=
  match coerce? false a b with
  | some (.integers m n) => integerOp op a b m n
  | some (.floats x y) => floatOp op a b x y
  | some (.texts s t) =>
    if op = .add then return ofString (s ++ t) else throw (impossible op a b)
  | Option.none => throw (impossible op a b)

/-- A value as a count, if it is a whole number of 64 bits. -/
def asCount? (v : Value) : Option Nat := do
  let n ← v.asSigned?
  if 0 ≤ n ∧ n < Word.count 64 then some n.toNat else Option.none

/-- Whether a value is a list or can be gone through like one. -/
def isListed (v : Value) : Bool := v.kind == .sequence || v.kind == .iterable

/-- The items of two values one after the other. -/
def appended (a b : Value) : Value :=
  iterable (a.contents?.getD [] ++ b.contents?.getD [])
    (a.knownLength?.isSome && b.knownLength?.isSome)

/-- A text some times over. -/
def repeatedText (s : String) (times : Value) : Except Error Value :=
  match times.asCount? with
  | some n => return ofString (String.join (List.replicate n s))
  | Option.none => throw (.invalid "strings can only be multiplied with integers")

/-- The items of a value some times over. -/
def repeatedItems (v times : Value) : Except Error Value :=
  match times.asCount? with
  | Option.none =>
    throw (.invalid "sequences and iterables can only be multiplied with integers")
  | some n =>
    if v.knownLength?.isNone then throw (.invalid "cannot repeat unsized iterables")
    else return ofItems (List.replicate n (v.contents?.getD [])).flatten

/-- Whether a value is made of other values or can only be called. -/
def isObject (v : Value) : Bool :=
  match v.kind with
  | .sequence | .map | .iterable | .plain => true
  | _ => false

/-- The product, of which one factor may be a text or a list. -/
def product (a b : Value) : Except Error Value :=
  match a, b with
  | text s _, _ => repeatedText s b
  | _, text s _ => repeatedText s a
  | _, _ =>
    if a.isObject then
      if a.isListed then repeatedItems a b else coercedOp .mul a b
    else if b.isListed then repeatedItems b a
    else coercedOp .mul a b

/-- An arithmetical operator. -/
def arithmetic (op : BinaryOp) (a b : Value) : Except Error Value :=
  match op with
  | .add => if a.isListed && b.isListed then return appended a b else coercedOp op a b
  | .mul => product a b
  | .div =>
    match a.asFloat? false, b.asFloat? false with
    | some x, some y => return float (x / y)
    | _, _ => throw (impossible op a b)
  | _ => coercedOp op a b

/-- The negated number. An integer without a sign that only lacks room for the sign stays as it
is. -/
def negated (v : Value) : Except Error Value :=
  match v with
  | integer n _ =>
    if n < Word.count 127 then
      if n = -(Word.count 127 : Nat) then throw (.invalid "overflow") else return ofInt (-n)
    else if n = Word.count 127 then return integer n true
    else throw { kind := .invalidOperation }
  | float x => return float (-x)
  | _ => throw { kind := .invalidOperation }

/-! ### Containment -/

/-- Whether a value is contained in a container. -/
def containedIn (v container : Value) : Except Error Value :=
  match container.kind with
  | .undefined => return bool false
  | .string => return bool (containsText v.shown.toList container.shown.toList)
  | .sequence | .iterable => return bool ((container.contents?.getD []).any (·.same v))
  | .map => return bool (container.item? v).isSome
  | .plain => return bool false
  | _ => throw (.invalid "cannot perform a containment check on this value")

/-! ### Slices -/

/-- A bound of a slice. -/
def bound? (v : Option Value) : Except Error (Option Int) :=
  match v with
  | Option.none | some none => return Option.none
  | some w =>
    match w.asIndex? with
    | some n => return some n
    | Option.none => throw (.invalid s!"cannot convert {w.kind.words} to i64")

/-- A bound as a place in a list. One before the list, counted from its end, is beyond all
places. -/
def placeOf (length : Nat) (n : Int) : Nat :=
  if 0 ≤ n then n.toNat
  else
    let m := (length : Int) + n
    if 0 ≤ m then m.toNat else ((Word.count 64 : Nat) + m).toNat

/-- The first of every so many items. -/
def stepping {α : Type} (step : Nat) (items : List α) : List α :=
  items.zipIdx.filterMap fun (a, i) => if i % step = 0 then some a else Option.none

/-- The items from one index up to another by steps. -/
def forward {α : Type} (length : Nat) (start stop : Option Int) (step : Nat) (items : List α) :
    List α :=
  let first := placeOf length (start.getD 0)
  let last := stop.elim length (placeOf length)
  stepping step ((items.drop first).take (last - first))

/-- An index as a place in a list, where those before the list count as the first one. -/
def nearestPlace (length : Nat) (n : Int) : Nat :=
  (if n < 0 then length + n else n).toNat

/-- The items from one index down to another by steps. -/
def backward {α : Type} (start stop : Option Int) (step : Nat) (items : List α) : List α :=
  let length := items.length
  let first := min (length - 1) (start.elim (length - 1) (nearestPlace length))
  let last := stop.elim 0 (nearestPlace length)
  let count := if last = 0 then (first + step) / step else (first - last + step - 1) / step
  (stepping step (items.take (first + 1)).reverse).take count

/-- The items from one index to another by steps; `known` is the length as far as it is known
beforehand. -/
def cut {α : Type} (known : Nat) (start stop : Option Int) (step : Int) (items : List α) : List α :=
  if 0 < step then forward known start stop step.natAbs items
  else backward start stop step.natAbs items

/-- The items from one index to another by steps. -/
def sliced (v : Value) (start stop step : Option Value) : Except Error Value := do
  if v.isMissing then throw .undefinedValue
  let first ← bound? start
  let last ← bound? stop
  let stride := (← bound? step).getD 1
  if stride = 0 then throw (.invalid "cannot slice by step size of 0")
  match v.kind with
  | .string =>
    let cs := v.shown.toList
    return ofString (String.ofList (cut cs.length first last stride cs))
  | .sequence | .iterable =>
    let known := v.knownLength?
    return iterable (cut (known.getD 0) first last stride (v.contents?.getD [])) known.isSome
  | .none | .undefined => return list []
  | _ => throw (.invalid s!"value of type {v.kind.words} cannot be sliced")

/-! ### All operators -/

/-- A comparison, which neither side may be missing from. -/
def compared (a b : Value) (p : Unit → Except Error Value) : Except Error Value :=
  if a.isMissing || b.isMissing then throw .undefinedValue else p ()

/-- An operator between two values; `and` and `or` are for what evaluates them. -/
def binary (op : BinaryOp) (a b : Value) : Except Error Value :=
  match op with
  | .eq => compared a b fun _ => return bool (a.same b)
  | .ne => compared a b fun _ => return bool !(a.same b)
  | .lt => compared a b fun _ => return bool (order a b == .lt)
  | .le => compared a b fun _ => return bool (order a b != .gt)
  | .gt => compared a b fun _ => return bool (order a b == .gt)
  | .ge => compared a b fun _ => return bool (order a b != .lt)
  | .contained => compared a b fun _ => containedIn a b
  | .concat => return ofString (a.shown ++ b.shown)
  | .and | .or => return b
  | op => arithmetic op a b

end Value

end EntityForge.Template
