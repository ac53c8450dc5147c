import EntityForge.Model.Extraction
import EntityForge.Proofs.Model.NameSets
import EntityForge.Proofs.Outcome
import EntityForge.Proofs.Xml.Elements

/-!
# What is extracted

An extraction that succeeds gives one entity for each table and one field for each column, in
document order, and nothing for other elements. What an entity and a field must be is said by two
structures that mention nothing but the table and the column. They leave nothing open: the entity of
a table is the only one that fits the table.
-/

namespace EntityForge.Model

open Outcome
open Xml (Element)

/-! ### Fields -/

theorem require_eq_ok {α : Type} {error : ExtractionError} {o : Option α} {a : α} :
    require error o = .ok a ↔ o = some a := by
  cases o with
  | none => simp [require]
  | some b => simp [require]

/-- What the field of a column of a table is. -/
structure FieldOf (types : TypeTable) (table : String) (primaryKey : Option String)
    (column : Element) (f : Field) : Prop where
  /-- The entity is named by the code of the table, as it stands in the document. -/
  entityName : f.entityName = table
  /-- The identifier is that of the column. -/
  colId : column.attribute? "Id" = some f.colId
  /-- The name is the code of the column. -/
  colName : column.childText? "Code" = some f.colName
  /-- The type is the data type of the column. -/
  colType : column.childText? "DataType" = some f.colType
  /-- The name of the field is that of the column under the naming rule. -/
  name : f.name = Naming.fieldName f.colName
  /-- The type of the field is the one that the table of types has. -/
  javaType : types.lookup f.colType = some f.javaType
  /-- The qualified name is that of the type. -/
  typeQualifiedName : f.typeQualifiedName = f.javaType.qualifiedName?
  /-- The length is that of the column. -/
  colLength : readOptional Text.word32? column "Length" table = .ok f.colLength
  /-- The comment is that of the column. -/
  comment : f.comment = column.childText? "Comment"
  /-- The column must have a value if its flag is one. -/
  mandatory : f.mandatory = true ↔ column.childText? "Column.Mandatory" = some "1"
  /-- The column is the primary key if its identifier is. -/
  isPrimaryKey : f.isPrimaryKey = true ↔ primaryKey = some f.colId

/-- A column gives the one field that fits it, or none. -/
theorem fieldOfColumn_eq_ok {types : TypeTable} {table : String} {primaryKey : Option String}
    {column : Element} {f : Field} :
    fieldOfColumn types table primaryKey column = .ok f ↔
      FieldOf types table primaryKey column f := by
  simp only [fieldOfColumn, bind_eq_ok, require_eq_ok]
  constructor
  · rintro ⟨colId, hcolId, colName, hcolName, colType, hcolType, javaType, hjavaType, colLength,
      hcolLength, h⟩
    cases h
    exact ⟨rfl, hcolId, hcolName, hcolType, rfl, hjavaType, rfl, hcolLength, rfl, by simp, by simp⟩
  · intro h
    refine ⟨_, h.colId, _, h.colName, _, h.colType, _, h.javaType, _, h.colLength, ?_⟩
    have hmandatory : (column.childText? "Column.Mandatory" == some "1") = f.mandatory := by
      rw [Bool.eq_iff_iff, h.mandatory, beq_iff_eq]
    have hprimaryKey : (primaryKey == some f.colId) = f.isPrimaryKey := by
      rw [Bool.eq_iff_iff, h.isPrimaryKey, beq_iff_eq]
    rw [hmandatory, hprimaryKey, ← h.entityName, ← h.name, ← h.typeQualifiedName, ← h.comment]
    rfl

/-! ### Entities -/

/-- What the entity of a table is. -/
structure EntityOf (naming : Naming) (types : TypeTable) (table : Element) (e : Entity) :
    Prop where
  /-- The identifier is that of the table. -/
  tableId : table.attribute? "Id" = some e.tableId
  /-- The comment is that of the table. -/
  comment : e.comment = table.childText? "Comment"
  /-- The creator is that of the table. -/
  creator : e.creator = table.childText? "Creator"
  /-- The primary key is where the way from the table leads. -/
  primaryKeyColId : e.primaryKeyColId = (keyPath table).column?
  /-- The names, the moment and the fields come from the code and the columns of the table. -/
  code : ∃ code columns, table.childText? "Code" = some code ∧
    table.child? "Columns" = some columns ∧
    e.name = naming.className code ∧ e.tableName = naming.tableName code ∧
    readOptional creationDate? table "CreationDate" code = .ok e.createDate ∧
    List.Forall₂ (FieldOf types code e.primaryKeyColId)
      (columns.children.filter (·.name == "Column")) e.fields
  /-- The dependencies are the qualified names of the types of the fields. -/
  dependencies : ∀ name, name ∈ e.dependencies.names ↔
    ∃ f ∈ e.fields, f.javaType.qualifiedName? = some name

/-- No type has a blank qualified name. -/
theorem trim_qualifiedName_ne {t : JavaType} {name : String} (h : t.qualifiedName? = some name) :
    Text.trim name ≠ "" := by
  cases t <;> cases h <;> decide +kernel

theorem mem_dependenciesOf {fields : List Field} {name : String}
    (h : ∀ f ∈ fields, f.typeQualifiedName = f.javaType.qualifiedName?) :
    name ∈ (Entity.dependenciesOf fields).names ↔
      ∃ f ∈ fields, f.javaType.qualifiedName? = some name := by
  rw [Entity.dependenciesOf, NameSet.mem_ofList, List.mem_filter, List.mem_filterMap]
  constructor
  · rintro ⟨⟨f, hf, hname⟩, -⟩
    exact ⟨f, hf, (h f hf).symm.trans hname⟩
  · rintro ⟨f, hf, hname⟩
    refine ⟨⟨f, hf, (h f hf).trans hname⟩, ?_⟩
    simpa using trim_qualifiedName_ne hname

/-- The fields of a table fit its columns. -/
theorem fields_of_mapM {types : TypeTable} {code : String} {primaryKey : Option String}
    {columns : List Element} {fields : List Field} :
    columns.mapM (fieldOfColumn types code primaryKey) = .ok fields ↔
      List.Forall₂ (FieldOf types code primaryKey) columns fields := by
  rw [mapM_eq_ok]
  simp only [fieldOfColumn_eq_ok]

theorem typeQualifiedName_of_forall₂ {types : TypeTable} {code : String}
    {primaryKey : Option String} {columns : List Element} {fields : List Field}
    (h : List.Forall₂ (FieldOf types code primaryKey) columns fields) :
    ∀ f ∈ fields, f.typeQualifiedName = f.javaType.qualifiedName? := by
  intro f hf
  obtain ⟨column, -, hfield⟩ := exists_left_of_forall₂ h hf
  exact hfield.typeQualifiedName

/-- A table gives the one entity that fits it, or none. -/
theorem entityOfTable_eq_ok {naming : Naming} {types : TypeTable} {table : Element} {e : Entity} :
    entityOfTable naming types table = .ok e ↔ EntityOf naming types table e := by
  simp only [entityOfTable, bind_eq_ok, require_eq_ok, fields_of_mapM]
  constructor
  · rintro ⟨code, hcode, tableId, htableId, createDate, hcreateDate, columns, hcolumns, fields,
      hfields, h⟩
    obtain rfl := Except.ok.inj h
    refine ⟨htableId, rfl, rfl, rfl,
      ⟨code, columns, hcode, hcolumns, ?_, ?_, hcreateDate, hfields⟩,
      fun _ => mem_dependenciesOf (typeQualifiedName_of_forall₂ hfields)⟩
    -- the names are compared as they stand, without computing them
    · simp only
    · simp only
  · intro h
    obtain ⟨code, columns, hcode, hcolumns, hname, htableName, hcreateDate, hfields⟩ := h.code
    have hprimaryKey := h.primaryKeyColId
    have hdependencies : e.dependencies = Entity.dependenciesOf e.fields := by
      refine NameSet.ext_of_mem fun name => ?_
      rw [h.dependencies, mem_dependenciesOf (typeQualifiedName_of_forall₂ hfields)]
    rw [hprimaryKey] at hfields
    refine ⟨code, hcode, _, h.tableId, _, hcreateDate, columns, hcolumns, _, hfields, ?_⟩
    rw [← hname, ← htableName, ← h.comment, ← h.creator, ← hprimaryKey, ← hdependencies]
    rfl

/-- A table has at most one entity. -/
theorem EntityOf.unique {naming : Naming} {types : TypeTable} {table : Element} {e e' : Entity}
    (h : EntityOf naming types table e) (h' : EntityOf naming types table e') : e = e' :=
  Except.ok.inj ((entityOfTable_eq_ok.mpr h).symm.trans (entityOfTable_eq_ok.mpr h'))

/-! ### Documents -/

/-- The tables of a document are the children of that name of its first `Tables` element. -/
def HoldsTables (root : Element) (tables : List Element) : Prop :=
  ∃ holder, root.descendants.find? (·.name == "Tables") = some holder ∧
    holder.children.filter (·.name == "Table") = tables

/-- A document gives the entities that fit its tables, or none. -/
theorem entitiesOfDocument_eq_ok {naming : Naming} {types : TypeTable} {root : Element}
    {entities : List Entity} :
    entitiesOfDocument naming types root = .ok entities ↔
      ∃ tables, HoldsTables root tables ∧ List.Forall₂ (EntityOf naming types) tables entities := by
  simp only [entitiesOfDocument, bind_eq_ok, require_eq_ok, mapM_eq_ok, entityOfTable_eq_ok,
    Element.descendant?_eq_find?]
  constructor
  · rintro ⟨holder, hholder, h⟩
    exact ⟨_, ⟨holder, hholder, rfl⟩, h⟩
  · rintro ⟨_, ⟨holder, hholder, rfl⟩, h⟩
    exact ⟨holder, hholder, h⟩

/-- An extraction gives the entities that fit the tables of the document, in order. A table has no
other entity, whatever stands around it, and where the tables are divided among two documents, the
entities are those of the one document followed by those of the other. -/
theorem entitiesOfDocument_tables {naming : Naming} {types : TypeTable} {root : Element}
    {entities : List Entity} (h : entitiesOfDocument naming types root = .ok entities) :
    ∃ tables, HoldsTables root tables ∧ List.Forall₂ (EntityOf naming types) tables entities ∧
      (∀ table ∈ tables, ∀ e e', EntityOf naming types table e → EntityOf naming types table e' →
        e = e') ∧
      ∀ before after, tables = before ++ after → ∀ root₁ root₂, HoldsTables root₁ before →
        HoldsTables root₂ after → ∃ entities₁ entities₂,
          entitiesOfDocument naming types root₁ = .ok entities₁ ∧
          entitiesOfDocument naming types root₂ = .ok entities₂ ∧
          entities = entities₁ ++ entities₂ := by
  obtain ⟨tables, htables, hentities⟩ := entitiesOfDocument_eq_ok.mp h
  refine ⟨tables, htables, hentities, fun _ _ _ _ => EntityOf.unique, ?_⟩
  rintro before after rfl root₁ root₂ h₁ h₂
  have hbefore := List.forall₂_take_append entities before after hentities.flip
  have hafter := List.forall₂_drop_append entities before after hentities.flip
  exact ⟨_, _, entitiesOfDocument_eq_ok.mpr ⟨before, h₁, hbefore.flip⟩,
    entitiesOfDocument_eq_ok.mpr ⟨after, h₂, hafter.flip⟩, (List.take_append_drop _ _).symm⟩

/-- A table with one column. -/
def customerTable : Element :=
  ⟨"Table", [("Id", "o1")], [⟨"Code", [], [], "t_customer"⟩, ⟨"Columns", [], [⟨"Column",
    [("Id", "o2")], [⟨"Code", [], [], "name"⟩, ⟨"DataType", [], [], "varchar(20)"⟩], ""⟩], ""⟩], ""⟩

/-- A document that holds a table and a shortcut to another one. -/
def customerDocument : Element :=
  ⟨"Model", [], [⟨"Tables", [], [⟨"Shortcut", [("Id", "o9")], [], ""⟩, customerTable], ""⟩], ""⟩

/-- The shortcut gives no entity, and the table gives the one that fits it. -/
theorem entitiesOfDocument_customer :
    ∃ e, entitiesOfDocument {} .standard customerDocument = .ok [e] ∧
      EntityOf {} .standard customerTable e := by
  have hok : (entitiesOfDocument {} .standard customerDocument).isOk = true := by decide +kernel
  cases h : entitiesOfDocument {} .standard customerDocument with
  | error f => rw [h] at hok; cases hok
  | ok entities =>
    obtain ⟨tables, ⟨holder, hholder, htables⟩, hentities, -, -⟩ := entitiesOfDocument_tables h
    cases hholder
    have htable : tables = [customerTable] := htables.symm
    rw [htable, List.forall₂_cons_left_iff] at hentities
    obtain ⟨e, rest, he, hrest, rfl⟩ := hentities
    rw [List.forall₂_nil_left_iff.mp hrest]
    exact ⟨e, rfl, he⟩

end EntityForge.Model
