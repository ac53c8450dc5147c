import EntityForge.Calendar.Instant
import EntityForge.Model.TypeTable

/-!
# Entities

An entity is a table made ready for a class: its names, what is known about it, its fields in the
order of the columns, and the names of the types that its class must import.
-/

namespace EntityForge.Model

/-- A column made ready for a class. -/
structure Field where
  /-- The code of the table. -/
  entityName : String
  /-- The identifier of the column in the document. -/
  colId : String
  /-- The name of the column. -/
  colName : String
  /-- The name of the field. -/
  name : String
  /-- The type of the column as the document writes it. -/
  colType : String
  /-- The type of the field. -/
  javaType : JavaType
  /-- The qualified name of the type, if it must be imported. -/
  typeQualifiedName : Option String
  /-- The length of the column. -/
  colLength : Option UInt32
  /-- The comment on the column. -/
  comment : Option String
  /-- Whether the column must have a value. -/
  mandatory : Bool
  /-- Whether the column is the primary key. -/
  isPrimaryKey : Bool
  deriving BEq, Repr

/-- A table made ready for a class. -/
structure Entity where
  /-- The name of the class. -/
  name : String
  /-- The stored name of the table. -/
  tableName : String
  /-- The comment on the table. -/
  comment : Option String
  /-- Who made the table. -/
  creator : Option String
  /-- When the table was made. -/
  createDate : Option Calendar.Instant
  /-- The identifier of the table in the document. -/
  tableId : String
  /-- The identifier of the column that is the primary key. -/
  primaryKeyColId : Option String
  /-- The fields, in the order of the columns. -/
  fields : List Field
  /-- The qualified names of the types that the fields need. -/
  dependencies : NameSet
  deriving BEq, Repr

namespace Entity

/-- The qualified type names of some fields, less the blank ones. -/
def dependenciesOf (fields : List Field) : NameSet :=
  NameSet.ofList ((fields.filterMap (·.typeQualifiedName)).filter fun name => Text.trim name != "")

/-- The first field that is a primary key. -/
def primaryKey? (e : Entity) : Option Field :=
  e.fields.find? (·.isPrimaryKey)

/-- The number of fields that must have a value. -/
def mandatoryCount (e : Entity) : Nat :=
  e.fields.countP (·.mandatory)

end Entity

end EntityForge.Model
