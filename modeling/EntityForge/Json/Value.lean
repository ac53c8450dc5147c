/-!
# JSON values

A value as it was read, which may have been cut short: a text that stops being JSON still has all
the values up to that place. A container then lacks its closing bracket, and a value that could not
be read at all is `broken`. A text whose escapes are no characters can be passed over but not used.

Numbers keep the way they are written.
-/

namespace EntityForge.Json

/-- A value, as far as it could be read. -/
inductive Value
  /-- The value `null`. -/
  | null
  /-- A truth value. -/
  | bool (b : Bool)
  /-- A number as it is written. -/
  | number (digits : String)
  /-- A text, unless an escape in it is no character. -/
  | string (text : Option String)
  /-- An array with its items, and whether its end was reached. -/
  | array (items : List Value) (closed : Bool)
  /-- An object with its members, and whether its end was reached. -/
  | object (members : List (Option String × Value)) (closed : Bool)
  /-- Something that is no value. -/
  | broken
  deriving Repr, Inhabited

namespace Value

/-- A text. -/
def ofString (s : String) : Value := string (some s)

/-- A number. -/
def ofNat (n : Nat) : Value := number (toString n)

/-- A whole array. -/
def ofList (items : List Value) : Value := array items true

/-- A whole object. -/
def ofMembers (members : List (String × Value)) : Value :=
  object (members.map fun (key, v) => (some key, v)) true

/-- A value that may be absent. -/
def ofOption (v : Option Value) : Value := v.getD null

mutual

/-- Whether a value was read to its end. -/
def isWhole : Value → Bool
  | array items closed => closed && allWhole items
  | object members closed => closed && allMembersWhole members
  | broken => false
  | _ => true

/-- Whether all of some values were read to their ends. -/
def allWhole : List Value → Bool
  | [] => true
  | v :: rest => v.isWhole && allWhole rest

/-- Whether the values of all of some members were read to their ends. -/
def allMembersWhole : List (Option String × Value) → Bool
  | [] => true
  | (_, v) :: rest => v.isWhole && allMembersWhole rest

end

end Value

end EntityForge.Json
