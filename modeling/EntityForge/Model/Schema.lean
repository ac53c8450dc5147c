import EntityForge.Json.Decode
import EntityForge.Json.Printer
import EntityForge.Json.Reader
import EntityForge.Model.Entity

/-!
# The schema as JSON

Entities are exchanged as a JSON list, each entity an object with its members in a fixed order and
null for what is absent. Writing goes over several lines. Reading takes the members in any order and
refuses a list in which anything is missing or of the wrong shape.
-/

namespace EntityForge.Model

open Json (Value Decoded Record Origin)

/-- A text that may be absent. -/
def textValue (s : Option String) : Value :=
  .ofOption (s.map .ofString)

namespace Field

/-- The shape of a field. -/
def record (origin : Origin) : Record := ⟨"Field", [
  .required "entityName" Value.asString,
  .required "colId" Value.asString,
  .required "colName" Value.asString,
  .required "name" Value.asString,
  .required "colType" Value.asString,
  .required "type" (Value.asChoice origin (JavaType.all.map (·.simpleName))),
  .optional "typeQualifiedName" Value.asString,
  .optional "colLength" Value.asWord32,
  .optional "comment" Value.asString,
  .required "mandatory" Value.asBool,
  .required "isPrimaryKey" Value.asBool]⟩

/-- The members of a field. -/
def members (f : Field) : List (String × Value) := [
  ("entityName", .ofString f.entityName),
  ("colId", .ofString f.colId),
  ("colName", .ofString f.colName),
  ("name", .ofString f.name),
  ("colType", .ofString f.colType),
  ("type", .ofString f.javaType.simpleName),
  ("typeQualifiedName", textValue f.typeQualifiedName),
  ("colLength", .ofOption (f.colLength.map fun n => .ofNat n.toNat)),
  ("comment", textValue f.comment),
  ("mandatory", .bool f.mandatory),
  ("isPrimaryKey", .bool f.isPrimaryKey)]

/-- The JSON value of a field. -/
def toValue (f : Field) : Value :=
  .ofMembers f.members

/-- The type of a field, by its name. -/
def typeOfValue (origin : Origin) (v : Value) : Decoded JavaType := do
  let name ← v.asChoice origin (JavaType.all.map (·.simpleName))
  match JavaType.ofName? name with
  | some t => return t
  | none => throw .malformed

/-- The field of a JSON value. -/
def ofValue (origin : Origin) (v : Value) : Decoded Field := do
  let values ← (record origin).decode origin v
  let get (name : String) : Value := Json.valueOf values name
  return {
    entityName := ← (get "entityName").asString
    colId := ← (get "colId").asString
    colName := ← (get "colName").asString
    name := ← (get "name").asString
    colType := ← (get "colType").asString
    javaType := ← typeOfValue origin (get "type")
    typeQualifiedName := ← (get "typeQualifiedName").asOption Value.asString
    colLength := ← (get "colLength").asOption Value.asWord32
    comment := ← (get "comment").asOption Value.asString
    mandatory := ← (get "mandatory").asBool
    isPrimaryKey := ← (get "isPrimaryKey").asBool
  }

end Field

namespace Entity

/-- The shape of an entity. -/
def record (origin : Origin) : Record := ⟨"Entity", [
  .required "name" Value.asString,
  .required "tableName" Value.asString,
  .optional "comment" Value.asString,
  .optional "creator" Value.asString,
  .optional "createDate" Value.asInstant,
  .required "tableId" Value.asString,
  .optional "primaryKeyColId" Value.asString,
  .required "fields" (Value.asList (Field.ofValue origin)),
  .required "dependencies" (Value.asList Value.asString)]⟩

/-- The members of an entity. -/
def members (e : Entity) : List (String × Value) := [
  ("name", .ofString e.name),
  ("tableName", .ofString e.tableName),
  ("comment", textValue e.comment),
  ("creator", textValue e.creator),
  ("createDate", textValue (e.createDate.map (·.toText))),
  ("tableId", .ofString e.tableId),
  ("primaryKeyColId", textValue e.primaryKeyColId),
  ("fields", .ofList (e.fields.map Field.toValue)),
  ("dependencies", .ofList (e.dependencies.names.map .ofString))]

/-- The JSON value of an entity. -/
def toValue (e : Entity) : Value :=
  .ofMembers e.members

/-- The entity of a JSON value. -/
def ofValue (origin : Origin) (v : Value) : Decoded Entity := do
  let values ← (record origin).decode origin v
  let get (name : String) : Value := Json.valueOf values name
  return {
    name := ← (get "name").asString
    tableName := ← (get "tableName").asString
    comment := ← (get "comment").asOption Value.asString
    creator := ← (get "creator").asOption Value.asString
    createDate := ← (get "createDate").asOption Value.asInstant
    tableId := ← (get "tableId").asString
    primaryKeyColId := ← (get "primaryKeyColId").asOption Value.asString
    fields := ← (get "fields").asList (Field.ofValue origin)
    dependencies := NameSet.ofList (← (get "dependencies").asList Value.asString)
  }

end Entity

/-- The schema of some entities as a text. -/
def schemaText (entities : List Entity) : String :=
  (Value.ofList (entities.map Entity.toValue)).pretty

/-- The entities of a value that is given. -/
def entitiesOf (v : Value) : Decoded (List Entity) :=
  v.asList (Entity.ofValue .given)

/-- The entities of a schema. -/
def readSchema (text : String) : Decoded (List Entity) := do
  let (v, isAll) := Json.read text
  let entities ← v.asList (Entity.ofValue .text)
  if isAll then return entities else throw .malformed

end EntityForge.Model
