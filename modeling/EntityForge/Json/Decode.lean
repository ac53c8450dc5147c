import EntityForge.Calendar.Reading
import EntityForge.Json.Number
import EntityForge.Json.Value
import EntityForge.Text.Quoted
import EntityForge.Word

/-!
# Decoding values

A value is decoded by the shape that is asked for. Decoding follows the order of the text, so that
the first thing in it that has the wrong shape is reported, unless the text stops being JSON before.

A record is an object with known members, in any order and with others among them, or an array of
the members in their order. A member that may be absent counts as null.

A value that is read from a text has to go on as the shape demands, and the text stops being JSON
where it does not; a value that is given is known to its end beforehand.
-/

namespace EntityForge.Json

/-- Where a value comes from. -/
inductive Origin
  /-- It is read from a text. -/
  | text
  /-- It is given. -/
  | given
  deriving DecidableEq, Repr

/-- Why a value has the wrong shape. -/
inductive ShapeFault
  /-- A value of another kind was expected. -/
  | wrongType (found expected : String)
  /-- A value within other bounds was expected. -/
  | wrongValue (found expected : String)
  /-- An array of another length was expected. -/
  | wrongLength (found : Nat) (expected : String)
  /-- A member is missing. -/
  | missingField (name : String)
  /-- A member occurs twice. -/
  | duplicateField (name : String)
  /-- A choice is none of those there are. -/
  | unknownChoice (found : String) (choices : List String)
  /-- A text is no date and time. -/
  | notInstant (fault : Calendar.ReadFault)
  deriving DecidableEq, Repr

/-- The names of choices between back quotes. -/
def choiceList (choices : List String) : String :=
  ", ".intercalate (choices.map fun c => "`" ++ c ++ "`")

/-- The wording of a fault. -/
def ShapeFault.message : ShapeFault → String
  | wrongType found expected => s!"invalid type: {found}, expected {expected}"
  | wrongValue found expected => s!"invalid value: {found}, expected {expected}"
  | wrongLength found expected => s!"invalid length {found}, expected {expected}"
  | missingField name => s!"missing field `{name}`"
  | duplicateField name => s!"duplicate field `{name}`"
  | unknownChoice found choices =>
    s!"unknown variant `{found}`, expected one of {choiceList choices}"
  | notInstant fault => fault.message

/-- Why a value cannot be decoded. -/
inductive DecodeError
  /-- The text is not JSON. -/
  | malformed
  /-- A value has the wrong shape. -/
  | shape (fault : ShapeFault)
  deriving DecidableEq, Repr

/-- The result of decoding. -/
abbrev Decoded (α : Type) := Except DecodeError α

namespace Value

/-- What a value is, in words. -/
def describe : Value → Decoded String
  | null => .ok "null"
  | bool b => .ok s!"boolean `{b}`"
  | number digits =>
    match Number.ofText digits with
    | .natural n => .ok s!"integer `{n}`"
    | .negative n => .ok s!"integer `-{n}`"
    | .float x => .ok s!"floating point `{Decimal.text .signed x}`"
    | .outOfRange => .error .malformed
  | string (some text) => .ok s!"string {Text.quoted text}"
  | string none => .error .malformed
  | array _ _ => .ok "sequence"
  | object _ _ => .ok "map"
  | broken => .error .malformed

/-- Refuses a value of the wrong kind. -/
def refuse {α : Type} (v : Value) (expected : String) : Decoded α := do
  throw (.shape (.wrongType (← v.describe) expected))

/-- Decodes a truth value. -/
def asBool : Value → Decoded Bool
  | bool b => .ok b
  | v => v.refuse "a boolean"

/-- Decodes a text. -/
def asString : Value → Decoded String
  | string (some text) => .ok text
  | v => v.refuse "a string"

/-- Decodes an integer of 32 bits without sign. -/
def asWord32 (v : Value) : Decoded UInt32 :=
  match v with
  | number digits =>
    match Number.ofText digits with
    | .natural n =>
      if n < Word.count 32 then .ok (UInt32.ofNat n)
      else .error (.shape (.wrongValue s!"integer `{n}`" "u32"))
    | .negative n => .error (.shape (.wrongValue s!"integer `-{n}`" "u32"))
    | _ => v.refuse "u32"
  | _ => v.refuse "u32"

/-- Decodes a value that may be null. -/
def asOption {α : Type} (decode : Value → Decoded α) : Value → Decoded (Option α)
  | null => .ok none
  | v => (decode v).map some

/-- Decodes a list. -/
def asList {α : Type} (decode : Value → Decoded α) : Value → Decoded (List α)
  | array items closed => do
    let decoded ← items.mapM decode
    if closed then return decoded else throw .malformed
  | v => v.refuse "a sequence"

/-- Decodes a date and time. -/
def asInstant : Value → Decoded Calendar.Instant
  | string (some text) =>
    (Calendar.Instant.ofText text).mapError fun fault => .shape (.notInstant fault)
  | v => v.refuse "an RFC 3339 formatted date and time string"

/-- Decodes one of some choices: its name, or an object that gives its name to null. -/
def asChoice (origin : Origin) (choices : List String) (v : Value) : Decoded String :=
  let choose (name : String) : Decoded String :=
    if choices.contains name then .ok name else .error (.shape (.unknownChoice name choices))
  match origin, v with
  | _, string (some name) => choose name
  | .given, object [(some name, content)] _ => do
    let chosen ← choose name
    match content with
    | null => return chosen
    | other => other.refuse "unit"
  | .given, object _ _ => .error (.shape (.wrongValue "map" "map with a single key"))
  | .given, other => other.refuse "string or map"
  | .text, object ((some name, content) :: more) closed => do
    let chosen ← choose name
    match content with
    | null => if closed && more.isEmpty then return chosen else throw .malformed
    | other => other.refuse "unit"
  | .text, _ => .error .malformed

end Value

/-- A member of a record. -/
structure Member where
  /-- The name. -/
  name : String
  /-- Checks the value of the member. -/
  check : Value → Decoded Unit
  /-- Whether the member may be absent. -/
  mayBeAbsent : Bool := false

/-- A member with a rule that decodes it. -/
def Member.required {α : Type} (name : String) (decode : Value → Decoded α) : Member :=
  ⟨name, fun v => (decode v).map fun _ => (), false⟩

/-- A member that may be absent, with a rule that decodes it. -/
def Member.optional {α : Type} (name : String) (decode : Value → Decoded α) : Member :=
  ⟨name, fun v => (v.asOption decode).map fun _ => (), true⟩

/-- A record with its members in order. -/
structure Record where
  /-- The name of the record. -/
  name : String
  /-- The members. -/
  members : List Member

namespace Record

/-- Checks the members of an object in the order of the text, given the names that came before. -/
def checkMembers (r : Record) (seen : List String) :
    List (Option String × Value) → Decoded Unit
  | [] => .ok ()
  | (none, _) :: _ => .error .malformed
  | (some key, v) :: rest =>
    match r.members.find? (·.name == key) with
    | none => if v.isWhole then r.checkMembers seen rest else .error .malformed
    | some m =>
      if seen.contains key then .error (.shape (.duplicateField key))
      else do
        m.check v
        r.checkMembers (key :: seen) rest

/-- Checks the items of an array against members, from the one of an index on. -/
def checkItems (r : Record) (origin : Origin) (closed : Bool) (index : Nat) :
    List Member → List Value → Decoded (List (String × Value))
  | [], [] => if closed then .ok [] else .error .malformed
  | [], rest@(_ :: _) =>
    match origin with
    | .text => .error .malformed
    | .given => .error (.shape (.wrongLength (index + rest.length) "fewer elements in array"))
  | _ :: _, [] =>
    if closed then
      .error (.shape (.wrongLength index s!"struct {r.name} with {r.members.length} elements"))
    else .error .malformed
  | m :: ms, v :: vs => do
    m.check v
    return (m.name, v) :: (← r.checkItems origin closed (index + 1) ms vs)

/-- The value of each member of the record in an object whose members have been checked. -/
def collect (members : List (Option String × Value)) :
    List Member → Decoded (List (String × Value))
  | [] => .ok []
  | m :: ms => do
    let v ← match members.find? (·.1 == some m.name) with
      | some (_, v) => pure v
      | none => if m.mayBeAbsent then pure .null else throw (.shape (.missingField m.name))
    return (m.name, v) :: (← collect members ms)

/-- The values of the members of a record, by name. -/
def decode (r : Record) (origin : Origin) : Value → Decoded (List (String × Value))
  | .object members closed => do
    r.checkMembers [] members
    if closed then collect members r.members else throw .malformed
  | .array items closed => r.checkItems origin closed 0 r.members items
  | v => v.refuse s!"struct {r.name}"

end Record

/-- The value of a name among the values of a record. -/
def valueOf (values : List (String × Value)) (name : String) : Value :=
  (values.lookup name).getD .null

end EntityForge.Json
