import EntityForge.Decimal.Shortest
import EntityForge.Text.Quoted
import EntityForge.Toml.Fault
import EntityForge.Word

/-!
# Values of TOML

A value with the stretch of the document it was read from. Tables remember how they came to be,
since only some of them can be added to later on.
-/

namespace EntityForge.Toml

/-- How a table came to be. -/
inductive TableForm
  /-- By its own header. -/
  | header
  /-- As the place of another table that has a header. -/
  | implied
  /-- As the place of a member with a dotted name. -/
  | dotted
  /-- As a value in braces. -/
  | inline
  deriving DecidableEq, Repr

/-- A value. -/
inductive Value
  /-- A text. -/
  | string (s : String)
  /-- An integer. -/
  | integer (n : Int)
  /-- A double. -/
  | float (x : Float)
  /-- A number with a fraction or a power of ten that is too great for a double. -/
  | excess
  /-- A truth value. -/
  | boolean (b : Bool)
  /-- A date, a time or both. -/
  | dateTime
  /-- A list. -/
  | array (items : List (Span × Value))
  /-- A list of tables with headers. -/
  | tables (items : List (List ((Span × String) × (Span × Value))))
  /-- A table. -/
  | table (form : TableForm) (members : List ((Span × String) × (Span × Value)))

/-- A name with its place. -/
abbrev Key := Span × String

/-- The members of a table by name, with their places. -/
abbrev Members := List (Key × (Span × Value))

namespace Value

/-- The kind of a value in words. -/
def kind : Value → String
  | string _ => "string"
  | integer _ => "integer"
  | float _ | excess => "float"
  | boolean _ => "boolean"
  | dateTime => "datetime"
  | array _ | tables _ => "array"
  | table .inline _ => "inline table"
  | table .. => "table"

/-- The wording of what a value is, or the complaint that there is no such value. -/
def found : Value → Except Complaint String
  | string s => return "string " ++ Text.quoted s
  | integer n =>
    if Word.Signed 63 n ∨ Word.Unsigned 64 n then return s!"integer `{n}`"
    else if Word.Signed 127 n then return s!"integer `{n}` as i128"
    else if Word.Unsigned 128 n then return s!"integer `{n}` as u128"
    else throw (.malformed "integer number overflowed")
  | float x => return s!"floating point `" ++ Decimal.text .plain x ++ "`"
  | excess => throw (.malformed "floating-point number overflowed")
  | boolean b => return s!"boolean `{b}`"
  | dateTime => return "map"
  | array _ | tables _ => return "sequence"
  | table .. => return "map"

/-- The complaint about a value of another type. -/
def unexpected (v : Value) (expected : String) : Complaint :=
  match v.found with
  | .ok words => .invalidType words expected
  | .error c => c

end Value

end EntityForge.Toml
