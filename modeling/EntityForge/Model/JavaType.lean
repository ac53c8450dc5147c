/-!
# Java types

The types that the field of a generated class can have. Those outside `java.lang` have a qualified
name and must be imported.
-/

namespace EntityForge.Model

/-- The type of a field. -/
inductive JavaType
  /-- A truth value. -/
  | boolean
  /-- A 32-bit integer. -/
  | integer
  /-- A 64-bit integer. -/
  | long
  /-- A single-precision number. -/
  | float
  /-- A double-precision number. -/
  | double
  /-- A decimal number of any precision. -/
  | bigDecimal
  /-- A text. -/
  | string
  /-- A date with a time. -/
  | date
  deriving DecidableEq, Repr

namespace JavaType

/-- All types. -/
def all : List JavaType :=
  [boolean, integer, long, float, double, bigDecimal, string, date]

/-- The name of a type as a declaration writes it. -/
def simpleName : JavaType → String
  | boolean => "Boolean"
  | integer => "Integer"
  | long => "Long"
  | float => "Float"
  | double => "Double"
  | bigDecimal => "BigDecimal"
  | string => "String"
  | date => "Date"

/-- The qualified name of a type that must be imported. -/
def qualifiedName? : JavaType → Option String
  | bigDecimal => some "java.math.BigDecimal"
  | date => some "java.util.Date"
  | _ => none

/-- Whether a type must be imported. -/
def needsImport (t : JavaType) : Bool :=
  t.qualifiedName?.isSome

/-- The type of a simple name. -/
def ofName? (name : String) : Option JavaType :=
  all.find? fun t => t.simpleName == name

theorem ofName?_simpleName (t : JavaType) : ofName? t.simpleName = some t := by
  cases t <;> rfl

end JavaType

end EntityForge.Model
