import EntityForge.Model.Ascending
import EntityForge.Model.JavaType
import EntityForge.Text.Blank

/-!
# Column types

A column type such as `varchar(255)` is looked up by its keyword, the text before the first
parenthesis without the blanks around it; lengths and precisions never take part. A table of
keywords gives each its Java type. Keywords are told apart by case, and a type that is not in the
table has no Java type at all: there is no type to fall back to.
-/

namespace EntityForge.Model

/-- The keyword of a column type. -/
def keyword (columnType : String) : String :=
  String.ofList (Text.trimChars (columnType.toList.takeWhile (· != '(')))

/-- Keywords with their Java types, listed in ascending order of the keywords. -/
structure TypeTable where
  /-- The keywords with their types. -/
  entries : List (String × JavaType) := []
  /-- The keywords ascend. -/
  ascending : Ascending Prod.fst entries := by exact List.Pairwise.nil

namespace TypeTable

/-- The table without keywords. -/
def empty : TypeTable := ⟨[], .nil⟩

/-- The table with one more keyword, or with another type for a keyword it has. -/
def insert (t : TypeTable) (entry : String × JavaType) : TypeTable :=
  ⟨insertAscending Prod.fst entry t.entries, ascending_insertAscending t.ascending⟩

/-- The table of some entries. Of two entries for a keyword the later counts. -/
def ofList (entries : List (String × JavaType)) : TypeTable :=
  entries.foldl insert empty

/-- The Java type of a column type, if the table has its keyword. -/
def lookup (t : TypeTable) (columnType : String) : Option JavaType :=
  (t.entries.find? fun entry => entry.1 == keyword columnType).map (·.2)

/-- The number of keywords. -/
def size (t : TypeTable) : Nat :=
  t.entries.length

/-- The table used when none is given. -/
def standard : TypeTable :=
  ofList [
    ("bit", .boolean),
    ("tinyint", .integer), ("smallint", .integer), ("int", .integer), ("bigint", .long),
    ("float", .float), ("double", .double), ("decimal", .bigDecimal),
    ("char", .string), ("varchar", .string), ("text", .string), ("longtext", .string),
    ("json", .string),
    ("time", .date), ("date", .date), ("datetime", .date), ("timestamp", .date)]

end TypeTable

/-- The wording for a column type without a Java type. -/
def unmappedMessage (columnType : String) : String :=
  s!"no Java type mapping for column type '{columnType}'"

/-- A column type whose keyword a table does not have. -/
structure UnmappedType where
  /-- The column type as it is written. -/
  columnType : String
  deriving DecidableEq, Repr

/-- The wording of an unmapped type. -/
def UnmappedType.message (u : UnmappedType) : String :=
  unmappedMessage u.columnType

/-- The Java type of a column type, which is refused if the table does not have its keyword. -/
def TypeTable.map (t : TypeTable) (columnType : String) : Except UnmappedType JavaType :=
  match t.lookup columnType with
  | some javaType => .ok javaType
  | none => .error { columnType }

end EntityForge.Model
