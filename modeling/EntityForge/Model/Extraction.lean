import EntityForge.Model.Entity
import EntityForge.Model.Naming
import EntityForge.Xml.Element

/-!
# Entities of a document

The tables of a document are the `Table` children of its first `Tables` element, and each gives one
entity. The primary key of a table is found through references: the table's `PrimaryKey` refers to a
key, the key stands among the table's `Keys` under that identifier, and its first column refers to
the column that is the primary key. Where a step leads nowhere there is no primary key.

What a table must have is asked for in a fixed order, and the first thing that is missing or invalid
ends the extraction. Optional structure that is absent is never an error.
-/

namespace EntityForge.Model

open Xml (Element)

/-- Why a document gives no entities. -/
inductive ExtractionError
  /-- A mandatory element is missing, of a table if it is known which. -/
  | missingElement (element : String) (table : Option String)
  /-- A mandatory attribute is missing. -/
  | missingAttribute (attr element : String) (table : Option String)
  /-- A value cannot be read. -/
  | invalidValue (field value table : String)
  /-- A column type has no Java type. -/
  | unmappableType (columnType table : String)
  deriving DecidableEq, Repr

/-- The mention of a table at the end of a wording. -/
def tableMention : Option String → String
  | some table => s!" in table {table}"
  | none => ""

/-- The wording of an error. -/
def ExtractionError.message : ExtractionError → String
  | missingElement element table => s!"missing <{element}> element{tableMention table}"
  | missingAttribute attr element table =>
    s!"missing {attr} attribute on <{element}>{tableMention table}"
  | invalidValue field value table => s!"invalid {field} value '{value}' in table {table}"
  | unmappableType columnType table => s!"{unmappedMessage columnType} in table {table}"

/-- A value that must be there. -/
def require {α : Type} (error : ExtractionError) : Option α → Except ExtractionError α
  | some a => .ok a
  | none => .error error

/-- The trimmed text of the first child of a name, if there is one that is not blank. -/
def optionalText? (e : Element) (name : String) : Option String :=
  Text.nonBlankOf (e.childText? name)

/-- An optional value read by a rule: absent if its text is, an error if the rule refuses it. -/
def readOptional {α : Type} (read : String → Option α) (e : Element) (name table : String) :
    Except ExtractionError (Option α) :=
  match optionalText? e name with
  | none => .ok none
  | some text => (require (.invalidValue name text table) (read text)).map some

/-- The moment that a number of seconds stands for. -/
def creationDate? (text : String) : Option Calendar.Instant :=
  (Text.signed64? text).bind Calendar.Instant.ofSeconds?

/-- Where the way from a table to its primary key leads. -/
inductive KeyPath
  /-- The table declares no primary key. -/
  | undeclared
  /-- The primary key refers to no key. -/
  | unreferenced
  /-- The primary key refers to a key that is not among the keys of the table. -/
  | unknownKey (key : String)
  /-- The key refers to no column. -/
  | noColumn (key : String)
  /-- The key refers to a column. -/
  | column (id : String)
  deriving DecidableEq, Repr

/-- The identifier that a path leads to. -/
def KeyPath.column? : KeyPath → Option String
  | column id => some id
  | _ => none

/-- The key of an identifier among the keys of a table. Of two keys of one identifier the later
counts. -/
def keyOfId? (table : Element) (id : String) : Option Element :=
  (((table.child? "Keys").elim [] (·.childrenNamed "Key")).filter fun key =>
    key.attribute? "Id" == some id).getLast?

/-- The column that a key refers to first. -/
def firstColumn? (key : Element) : Option String :=
  ((key.child? "Key.Columns").bind fun columns => columns.child? "Column").bind
    (·.attribute? "Ref")

/-- The way from a table to its primary key. -/
def keyPath (table : Element) : KeyPath :=
  match table.descendant? "PrimaryKey" with
  | none => .undeclared
  | some primaryKey =>
    match (primaryKey.descendant? "Key").bind (·.attribute? "Ref") with
    | none => .unreferenced
    | some id =>
      match keyOfId? table id with
      | none => .unknownKey id
      | some key =>
        match firstColumn? key with
        | none => .noColumn id
        | some column => .column column

/-- The field of a column. -/
def fieldOfColumn (types : TypeTable) (table : String) (primaryKey : Option String)
    (column : Element) : Except ExtractionError Field := do
  let colId ← require (.missingAttribute "Id" "Column" (some table)) (column.attribute? "Id")
  let colName ← require (.missingElement "Code" (some table)) (column.childText? "Code")
  let colType ← require (.missingElement "DataType" (some table)) (column.childText? "DataType")
  let javaType ← require (.unmappableType colType table) (types.lookup colType)
  let colLength ← readOptional Text.word32? column "Length" table
  return {
    entityName := table
    colId
    colName
    name := Naming.fieldName colName
    colType
    javaType
    typeQualifiedName := javaType.qualifiedName?
    colLength
    comment := column.childText? "Comment"
    mandatory := column.childText? "Column.Mandatory" == some "1"
    isPrimaryKey := primaryKey == some colId
  }

/-- The entity of a table. -/
def entityOfTable (naming : Naming) (types : TypeTable) (table : Element) :
    Except ExtractionError Entity := do
  let code ← require (.missingElement "Code" none) (table.childText? "Code")
  let tableId ← require (.missingAttribute "Id" "Table" (some code)) (table.attribute? "Id")
  let createDate ← readOptional creationDate? table "CreationDate" code
  let primaryKeyColId := (keyPath table).column?
  let columns ← require (.missingElement "Columns" (some code)) (table.child? "Columns")
  let fields ←
    (columns.childrenNamed "Column").mapM (fieldOfColumn types code primaryKeyColId)
  return {
    name := naming.className code
    tableName := naming.tableName code
    comment := table.childText? "Comment"
    creator := table.childText? "Creator"
    createDate
    tableId
    primaryKeyColId
    fields
    dependencies := Entity.dependenciesOf fields
  }

/-- The entities of a document, one for each table, in document order. -/
def entitiesOfDocument (naming : Naming) (types : TypeTable) (root : Element) :
    Except ExtractionError (List Entity) := do
  let tables ← require (.missingElement "Tables" none) (root.descendant? "Tables")
  (tables.childrenNamed "Table").mapM (entityOfTable naming types)

end EntityForge.Model
