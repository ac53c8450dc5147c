import EntityForge.Decimal.Exact
import EntityForge.Template.Error
import EntityForge.Template.Node

/-!
# Values of templates

What an expression can stand for. A number is an integer of at most 128 bits or a double; an integer
that was written out or counted has no sign and may use all bits, one that was calculated has a
sign. Truth values count as zero and one where a number is wanted.

Some values are only windows on the state of a rendering: a name space and a loop carry the members
they had when they were last looked at.
-/

namespace EntityForge.Template

/-- A value. -/
inductive Value
  /-- No value. -/
  | undefined
  /-- The result of a choice without a second branch, which is no value either but no mistake. -/
  | omitted
  /-- The absent value. -/
  | none
  /-- A truth value. -/
  | bool (b : Bool)
  /-- An integer, and whether it is kept without a sign. -/
  | integer (n : Int) (unsigned : Bool)
  /-- A double. -/
  | float (x : Float)
  /-- A text, and whether it needs no escaping. -/
  | text (s : String) (safe : Bool)
  /-- A list. -/
  | list (items : List Value)
  /-- What can be gone through but is no list, and whether its length is known beforehand. -/
  | iterable (items : List Value) (sized : Bool)
  /-- A map. -/
  | dict (pairs : List (Value × Value))
  /-- The items that share a key. -/
  | group (key : Value) (items : List Value)
  /-- The arguments that a call names, by name in ascending order. -/
  | named (pairs : List (String × Value))
  /-- A name space by its number, with its members. -/
  | nameSpace (id : Nat) (members : List (String × Value))
  /-- What another template defines, with the text of that template. -/
  | library (text : String) (members : List (String × Value))
  /-- The state of a loop: its number, the index, how many items there are if that is known, how
  deep the loop stands in loops of the same kind, and the neighbours of the item. -/
  | loop (id index : Nat) (length : Option Nat) (depth : Nat) (previous following : Value)
  /-- A routine with the number of the names it sees and the template it stands in. -/
  | routine (r : Routine) (closure : Nat) (home : String)
  /-- A function that every template knows. -/
  | function (name : String)

instance : Inhabited Value := ⟨.undefined⟩

/-- The sort of a value. -/
inductive Kind
  /-- No value. -/
  | undefined
  /-- The absent value. -/
  | none
  /-- Truth values. -/
  | bool
  /-- Numbers. -/
  | number
  /-- Texts. -/
  | string
  /-- Lists. -/
  | sequence
  /-- Maps. -/
  | map
  /-- What can be gone through but is no list. -/
  | iterable
  /-- What can only be called. -/
  | plain
  deriving DecidableEq

namespace Kind

/-- A sort in words. -/
def words : Kind → String
  | undefined => "undefined"
  | none => "none"
  | bool => "bool"
  | number => "number"
  | string => "string"
  | sequence => "sequence"
  | map => "map"
  | iterable => "iterator"
  | plain => "plain object"

/-- The place of a sort in the order of values. -/
def rank (k : Kind) : Nat := k.ctorIdx

end Kind

namespace Value

/-- A text that may need escaping. -/
def ofString (s : String) : Value := text s false

/-- An integer that was calculated. -/
def ofInt (n : Int) : Value := integer n false

/-- An integer that was counted. -/
def ofNat (n : Nat) : Value := integer n true

/-- What can be gone through with a known number of items. -/
def ofItems (items : List Value) : Value := iterable items true

/-- The sort of a value. -/
def kind : Value → Kind
  | undefined | omitted => .undefined
  | none => .none
  | bool _ => .bool
  | integer .. | float _ => .number
  | text .. => .string
  | list _ | group .. => .sequence
  | iterable .. => .iterable
  | dict _ | named _ | nameSpace .. | library .. | loop .. | routine .. => .map
  | function _ => .plain

/-- Whether a value is no value. -/
def isUndefined (v : Value) : Bool := v.kind == .undefined

/-- Whether a value is missing by mistake. -/
def isMissing : Value → Bool
  | undefined => true
  | _ => false

/-- Whether a value counts as true. -/
def truth : Value → Bool
  | undefined | omitted | none => false
  | bool b => b
  | integer n _ => n != 0
  | float x => x != 0.0
  | text s _ => s != ""
  | list items => !items.isEmpty
  | iterable items sized => !sized || !items.isEmpty
  | dict pairs => !pairs.isEmpty
  | named pairs | nameSpace _ pairs | library _ pairs => !pairs.isEmpty
  | _ => true

/-! ### Maps -/

/-- What is asked of a loop. -/
def loopMembers (index : Nat) (length : Option Nat) (depth : Nat) (previous following : Value) :
    List (String × Value) :=
  let known (f : Nat → Nat) := length.elim undefined fun n => ofNat (f n)
  [("index0", ofNat index), ("index", ofNat (index + 1)), ("length", known id),
    ("revindex", known (· - index)), ("revindex0", known (· - index - 1)),
    ("first", bool (index == 0)), ("last", bool (length.any (index + 1 == ·))),
    ("depth", ofNat (depth + 1)), ("depth0", ofNat depth),
    ("previtem", previous), ("nextitem", following)]

/-- What is asked of a routine. -/
def routineMembers (r : Routine) : List (String × Value) :=
  [("name", ofString r.name), ("arguments", list (r.params.map (ofString ·.1))),
    ("caller", bool r.asksCaller)]

/-- The members of a map whose keys are names. -/
def members? : Value → Option (List (String × Value))
  | named pairs | nameSpace _ pairs | library _ pairs => some pairs
  | loop _ index length depth previous following =>
    some (loopMembers index length depth previous following)
  | routine r _ _ => some (routineMembers r)
  | _ => Option.none

/-- The members of a map, in its order. -/
def pairs? : Value → Option (List (Value × Value))
  | dict pairs => some pairs
  | v => v.members?.map (·.map fun (name, w) => (ofString name, w))

/-! ### Items -/

/-- The items of a value that is made of other values. -/
def contents? : Value → Option (List Value)
  | list items | iterable items _ => some items
  | group key items => some [key, ofItems items]
  | v => v.pairs?.map (·.map (·.1))

/-- The characters of a text as values. -/
def characters (s : String) : List Value :=
  s.toList.map fun c => ofString c.toString

/-- The items of a value; what is no value, or the absent one, has none. -/
def items? : Value → Option (List Value)
  | undefined | omitted | none => some []
  | text s _ => some (characters s)
  | v => v.contents?

/-- The number of items of a value, as far as it is known beforehand. -/
def knownLength? : Value → Option Nat
  | iterable items true => some items.length
  | iterable _ false | text .. => Option.none
  | v => v.contents?.map List.length

/-- The items of a value that is gone through. -/
def iterated (v : Value) : Except Error (List Value) :=
  if v.isMissing then throw .undefinedValue
  else
    match v.items? with
    | some items => return items
    | Option.none => throw (.invalid s!"{v.kind.words} is not iterable")

/-- A failed step as the reason of another failure. -/
def because {α : Type} (step : Except Error α) (e : Error) : Except Error α :=
  step.mapError fun reason => { e with behind := reason.chain }

end Value

end EntityForge.Template
