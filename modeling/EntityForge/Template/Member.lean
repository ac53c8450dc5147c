import EntityForge.Json.Value
import EntityForge.Template.Order
import EntityForge.Text.Numeral

/-!
# Members and items of values

What stands at a name, an index or a path of a value, how maps are made, and the values of data. The
members of a map that a template makes ascend by their keys; those of data keep the order of the
data.
-/

namespace EntityForge.Template

namespace Value

/-! ### Making maps -/

/-- A map's members with one more, which replaces one of the same key. -/
def insertPair (key v : Value) : List (Value × Value) → List (Value × Value)
  | [] => [(key, v)]
  | (k, w) :: rest =>
    match order key k with
    | .lt => (key, v) :: (k, w) :: rest
    | .eq => (k, v) :: rest
    | .gt => (k, w) :: insertPair key v rest

/-- The map of some members; of two with one key the later one counts. -/
def ofPairs (pairs : List (Value × Value)) : Value :=
  dict (pairs.foldl (fun done (key, v) => insertPair key v done) [])

/-- Members by name with one more, which replaces one of the same name. -/
def insertMember (name : String) (v : Value) : List (String × Value) → List (String × Value)
  | [] => [(name, v)]
  | (other, w) :: rest =>
    match compare name other with
    | .lt => (name, v) :: (other, w) :: rest
    | .eq => (name, v) :: rest
    | .gt => (other, w) :: insertMember name v rest

/-- Members by name in ascending order; of two with one name the later one counts. -/
def sortedMembers (members : List (String × Value)) : List (String × Value) :=
  members.foldl (fun done (name, v) => insertMember name v done) []

/-! ### Members and items -/

/-- The member of a name. -/
def member? (v : Value) (name : String) : Option Value :=
  match v with
  | group key items =>
    if name = "grouper" then some key
    else if name = "list" then some (ofItems items)
    else Option.none
  | dict pairs => lookupPair? (ofString name) pairs
  | v => v.members?.bind (·.lookup name)

/-- A value as an integer of 64 bits. -/
def asIndex? (v : Value) : Option Int := do
  let n ← v.asSigned?
  if Word.Signed 63 n then some n else Option.none

/-- The place in a list that an index stands for; a negative one counts from the end, if the length
is known. -/
def position? (length : Option Nat) (index : Int) : Option Nat :=
  if 0 ≤ index then some index.toNat
  else length.bind fun n => if index.natAbs ≤ n then some (n - index.natAbs) else Option.none

/-- The item at a key. -/
def item? (v key : Value) : Option Value :=
  match v with
  | list items => do items[← position? (some items.length) (← key.asIndex?)]?
  | iterable items sized => do
    items[← position? (if sized then some items.length else Option.none) (← key.asIndex?)]?
  | group first items =>
    match key with
    | text name _ => v.member? name
    | _ => do [first, ofItems items][← position? (some 2) (← key.asIndex?)]?
  | text s _ => do
    let cs := s.toList
    let c ← cs[← position? (some cs.length) (← key.asIndex?)]?
    return ofString c.toString
  | dict pairs => lookupPair? key pairs
  | v =>
    match key with
    | text name _ => v.member? name
    | _ => Option.none

/-- The member of a name, or no value. A value that is missing has no members. -/
def member (v : Value) (name : String) : Except Error Value :=
  match v.member? name with
  | some w => return w
  | Option.none => if v.isUndefined then throw .undefinedValue else return undefined

/-- The item at a key, or no value. A value that is missing has no items. -/
def item (v key : Value) : Except Error Value :=
  match v.item? key with
  | some w => return w
  | Option.none => if v.isUndefined then throw .undefinedValue else return undefined

/-- The value at the end of a path of names and indices with points between them. -/
def atPath (v : Value) (path : String) : Except Error Value :=
  (path.splitOn ".").foldlM (fun w part =>
    match Text.natural? part.toList with
    | some n => w.item (ofNat n)
    | Option.none => w.member part) v

/-- The value at the end of a path, or another one if there is none. -/
def atPathOr (v : Value) (path : String) (default : Value) : Value :=
  match v.atPath path with
  | .ok w => if w.isUndefined then default else w
  | .error _ => default

/-! ### Values of data -/

mutual

/-- A value of JSON. -/
def ofJson : Json.Value → Value
  | .null | .broken => none
  | .bool b => bool b
  | .number digits =>
    match digits.toInt? with
    | some n => integer n (0 ≤ n)
    | Option.none => ofString digits
  | .string s => s.elim none ofString
  | .array items _ => list (ofJsonAll items)
  | .object members _ => dict (ofJsonMembers members)

/-- Values of JSON. -/
def ofJsonAll : List Json.Value → List Value
  | [] => []
  | v :: rest => ofJson v :: ofJsonAll rest

/-- Members of a JSON object. -/
def ofJsonMembers : List (Option String × Json.Value) → List (Value × Value)
  | [] => []
  | (key, v) :: rest => (key.elim none ofString, ofJson v) :: ofJsonMembers rest

end

/-- The value of a literal. -/
def ofLiteral : Literal → Value
  | .none => none
  | .bool b => bool b
  | .integer n => ofNat n
  | .float x => float x
  | .text s => ofString s

end Value

end EntityForge.Template
