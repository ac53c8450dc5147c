import EntityForge.Proofs.Model.Extraction

/-!
# Defects of a document

An extraction fails for nothing but a defect, and a document can have many. The defects that a table
or a column can have are said one by one, whatever others there are, and are listed in the order in
which they count: table by table, first what the table itself lacks, then column by column. An
extraction fails with the first of them. All other elements may be there or not and have any text.
-/

namespace EntityForge.Model

open Outcome
open Xml (Element)

/-! ### One defect -/

/-- A value is there but is refused: a child of the name has a text that is not blank, and the rule
reads nothing from it without the blanks around it. -/
def Refuses {α : Type} (read : String → Option α) (e : Element) (name text : String) : Prop :=
  ∃ raw, e.childText? name = some raw ∧ Text.trim raw = text ∧ text ≠ "" ∧ read text = none

/-- The defects of a column, each with its error. -/
inductive ColumnDefect (types : TypeTable) (table : String) (column : Element) :
    ExtractionError → Prop
  /-- The column has no identifier. -/
  | noId : column.attribute? "Id" = none →
    ColumnDefect types table column (.missingAttribute "Id" "Column" (some table))
  /-- The column has no code. -/
  | noCode : column.childText? "Code" = none →
    ColumnDefect types table column (.missingElement "Code" (some table))
  /-- The column has no data type. -/
  | noDataType : column.childText? "DataType" = none →
    ColumnDefect types table column (.missingElement "DataType" (some table))
  /-- The data type of the column is not in the table of types. -/
  | unmapped {columnType : String} : column.childText? "DataType" = some columnType →
    types.lookup columnType = none →
    ColumnDefect types table column (.unmappableType columnType table)
  /-- The length of the column is no number of 32 bits. -/
  | badLength {text : String} : Refuses Text.word32? column "Length" text →
    ColumnDefect types table column (.invalidValue "Length" text table)

/-- The defects of a table and its columns, each with its error. Only a table without a code is not
named. -/
inductive TableDefect (types : TypeTable) (table : Element) : ExtractionError → Prop
  /-- The table has no code. -/
  | noCode : table.childText? "Code" = none →
    TableDefect types table (.missingElement "Code" none)
  /-- The table has no identifier. -/
  | noId {code : String} : table.childText? "Code" = some code → table.attribute? "Id" = none →
    TableDefect types table (.missingAttribute "Id" "Table" (some code))
  /-- The moment of the table is no second that can be represented. -/
  | badDate {code text : String} : table.childText? "Code" = some code →
    Refuses creationDate? table "CreationDate" text →
    TableDefect types table (.invalidValue "CreationDate" text code)
  /-- The table has no columns element. -/
  | noColumns {code : String} : table.childText? "Code" = some code →
    table.child? "Columns" = none →
    TableDefect types table (.missingElement "Columns" (some code))
  /-- A column of the table has a defect. -/
  | column {code : String} {columns column : Element} {error : ExtractionError} :
    table.childText? "Code" = some code → table.child? "Columns" = some columns →
    column ∈ columns.children.filter (·.name == "Column") → ColumnDefect types code column error →
    TableDefect types table error

/-- The defects of a document, each with its error. -/
inductive Defect (types : TypeTable) (root : Element) : ExtractionError → Prop
  /-- The document has no tables element. -/
  | noTables : root.descendants.find? (·.name == "Tables") = none →
    Defect types root (.missingElement "Tables" none)
  /-- A table of the document has a defect. -/
  | table {tables : List Element} {table : Element} {error : ExtractionError} :
    HoldsTables root tables → table ∈ tables → TableDefect types table error →
    Defect types root error

/-! ### Defects in order -/

/-- The defect of a value that is not there. -/
def missing {α : Type} (error : ExtractionError) : Option α → List ExtractionError
  | some _ => []
  | none => [error]

/-- The defect of an optional value that is refused. -/
def invalid {α : Type} (read : String → Option α) (e : Element) (name table : String) :
    List ExtractionError :=
  match optionalText? e name with
  | none => []
  | some text => missing (.invalidValue name text table) (read text)

/-- The defects of a column, in order. -/
def columnDefects (types : TypeTable) (table : String) (column : Element) :
    List ExtractionError :=
  missing (.missingAttribute "Id" "Column" (some table)) (column.attribute? "Id") ++
    (missing (.missingElement "Code" (some table)) (column.childText? "Code") ++
      (missing (.missingElement "DataType" (some table)) (column.childText? "DataType") ++
        ((column.childText? "DataType").elim [] (fun columnType =>
            missing (.unmappableType columnType table) (types.lookup columnType)) ++
          invalid Text.word32? column "Length" table)))

/-- The defects of a table and its columns, in order. -/
def tableDefects (types : TypeTable) (table : Element) : List ExtractionError :=
  missing (.missingElement "Code" none) (table.childText? "Code") ++
    (table.childText? "Code").elim [] fun code =>
      missing (.missingAttribute "Id" "Table" (some code)) (table.attribute? "Id") ++
        (invalid creationDate? table "CreationDate" code ++
          (missing (.missingElement "Columns" (some code)) (table.child? "Columns") ++
            (table.child? "Columns").elim [] fun columns =>
              (columns.children.filter (·.name == "Column")).flatMap (columnDefects types code)))

/-- The defects of a document, in order. -/
def defects (types : TypeTable) (root : Element) : List ExtractionError :=
  missing (.missingElement "Tables" none) (root.descendants.find? (·.name == "Tables")) ++
    (root.descendants.find? (·.name == "Tables")).elim [] fun holder =>
      (holder.children.filter (·.name == "Table")).flatMap (tableDefects types)

theorem mem_missing {α : Type} {error error' : ExtractionError} {o : Option α} :
    error' ∈ missing error o ↔ o = none ∧ error' = error := by
  cases o <;> simp [missing]

theorem optionalText?_eq_some {e : Element} {name text : String} :
    optionalText? e name = some text ↔
      ∃ raw, e.childText? name = some raw ∧ Text.trim raw = text ∧ text ≠ "" := by
  rw [optionalText?, Text.nonBlankOf, Option.bind_eq_some_iff]
  refine exists_congr fun raw => and_congr_right fun _ => ?_
  rw [Text.nonBlank?]
  split_ifs with hblank
  · simp only [hblank, false_iff, not_and, not_not]
    exact fun h => h.symm
  · simp only [Option.some.injEq, iff_self_and]
    exact fun h => h ▸ hblank

theorem mem_invalid {α : Type} {read : String → Option α} {e : Element} {name table : String}
    {error : ExtractionError} :
    error ∈ invalid read e name table ↔
      ∃ text, Refuses read e name text ∧ error = .invalidValue name text table := by
  have hrefuses : ∀ text, Refuses read e name text ↔
      optionalText? e name = some text ∧ read text = none := fun text => by
    simp only [optionalText?_eq_some, Refuses, exists_and_right, ← and_assoc]
  simp only [hrefuses, invalid]
  cases optionalText? e name with
  | none => simp
  | some text => simp [mem_missing, and_assoc]

theorem mem_elim {α : Type} {f : α → List ExtractionError} {error : ExtractionError}
    {o : Option α} : error ∈ o.elim [] f ↔ ∃ a, o = some a ∧ error ∈ f a := by
  cases o <;> simp

/-- The defects of a column are those listed. -/
theorem mem_columnDefects {types : TypeTable} {table : String} {column : Element}
    {error : ExtractionError} :
    error ∈ columnDefects types table column ↔ ColumnDefect types table column error := by
  simp only [columnDefects, List.mem_append, mem_missing, mem_elim, mem_invalid]
  constructor
  · rintro (⟨hid, rfl⟩ | ⟨hcode, rfl⟩ | ⟨hdata, rfl⟩ | ⟨columnType, hdata, hlookup, rfl⟩ |
      ⟨text, hlength, rfl⟩)
    · exact .noId hid
    · exact .noCode hcode
    · exact .noDataType hdata
    · exact .unmapped hdata hlookup
    · exact .badLength hlength
  · rintro (hid | hcode | hdata | ⟨hdata, hlookup⟩ | hlength)
    · exact .inl ⟨hid, rfl⟩
    · exact .inr (.inl ⟨hcode, rfl⟩)
    · exact .inr (.inr (.inl ⟨hdata, rfl⟩))
    · exact .inr (.inr (.inr (.inl ⟨_, hdata, hlookup, rfl⟩)))
    · exact .inr (.inr (.inr (.inr ⟨_, hlength, rfl⟩)))

/-- The defects of a table are those listed. -/
theorem mem_tableDefects {types : TypeTable} {table : Element} {error : ExtractionError} :
    error ∈ tableDefects types table ↔ TableDefect types table error := by
  simp only [tableDefects, List.mem_append, mem_missing, mem_elim, mem_invalid, List.mem_flatMap,
    mem_columnDefects]
  constructor
  · rintro (⟨hcode, rfl⟩ | ⟨code, hcode, ⟨hid, rfl⟩ | ⟨text, hdate, rfl⟩ | ⟨hchild, rfl⟩ |
      ⟨columns, hchild, column, hmem, hcolumn⟩⟩)
    · exact .noCode hcode
    · exact .noId hcode hid
    · exact .badDate hcode hdate
    · exact .noColumns hcode hchild
    · exact .column hcode hchild hmem hcolumn
  · rintro (hcode | ⟨hcode, hid⟩ | ⟨hcode, hdate⟩ | ⟨hcode, hchild⟩ |
      ⟨hcode, hchild, hmem, hcolumn⟩)
    · exact .inl ⟨hcode, rfl⟩
    · exact .inr ⟨_, hcode, .inl ⟨hid, rfl⟩⟩
    · exact .inr ⟨_, hcode, .inr (.inl ⟨_, hdate, rfl⟩)⟩
    · exact .inr ⟨_, hcode, .inr (.inr (.inl ⟨hchild, rfl⟩))⟩
    · exact .inr ⟨_, hcode, .inr (.inr (.inr ⟨_, hchild, _, hmem, hcolumn⟩))⟩

/-- The defects of a document are those listed. -/
theorem mem_defects {types : TypeTable} {root : Element} {error : ExtractionError} :
    error ∈ defects types root ↔ Defect types root error := by
  simp only [defects, List.mem_append, mem_missing, mem_elim, List.mem_flatMap, mem_tableDefects]
  constructor
  · rintro (⟨hholder, rfl⟩ | ⟨holder, hholder, table, hmem, htable⟩)
    · exact .noTables hholder
    · exact .table ⟨holder, hholder, rfl⟩ hmem htable
  · rintro (hholder | ⟨⟨holder, hholder, rfl⟩, hmem, htable⟩)
    · exact .inl ⟨hholder, rfl⟩
    · exact .inr ⟨holder, hholder, _, hmem, htable⟩

/-! ### Extractions that fail -/

theorem failsFirst_require {α : Type} (error : ExtractionError) (o : Option α) :
    FailsFirst (require error o) (missing error o) := by
  cases o with
  | none => exact FailsFirst.error error
  | some a => exact FailsFirst.ok a

theorem failsFirst_readOptional {α : Type} (read : String → Option α) (e : Element)
    (name table : String) :
    FailsFirst (readOptional read e name table) (invalid read e name table) := by
  rw [readOptional, invalid]
  cases optionalText? e name with
  | none => exact FailsFirst.ok none
  | some text => exact (failsFirst_require _ (read text)).map some

theorem failsFirst_fieldOfColumn (types : TypeTable) (table : String) (primaryKey : Option String)
    (column : Element) :
    FailsFirst (fieldOfColumn types table primaryKey column)
      (columnDefects types table column) := by
  rw [fieldOfColumn, columnDefects]
  refine (failsFirst_require _ _).bind fun colId _ => ?_
  refine (failsFirst_require _ _).bind fun colName _ => ?_
  refine (failsFirst_require _ _).bind fun colType hcolType => ?_
  rw [require_eq_ok.mp hcolType, Option.elim_some]
  refine (failsFirst_require _ _).bind fun javaType _ => ?_
  exact (failsFirst_readOptional _ _ _ _).bind_ok _

theorem failsFirst_entityOfTable (naming : Naming) (types : TypeTable) (table : Element) :
    FailsFirst (entityOfTable naming types table) (tableDefects types table) := by
  rw [entityOfTable, tableDefects]
  refine (failsFirst_require _ _).bind fun code hcode => ?_
  rw [require_eq_ok.mp hcode, Option.elim_some]
  refine (failsFirst_require _ _).bind fun tableId _ => ?_
  refine (failsFirst_readOptional _ _ _ _).bind fun createDate _ => ?_
  refine (failsFirst_require _ _).bind fun columns hcolumns => ?_
  rw [require_eq_ok.mp hcolumns, Option.elim_some]
  refine FailsFirst.bind_ok ?_ _
  exact FailsFirst.mapM fun column _ => failsFirst_fieldOfColumn types code _ column

/-- An extraction fails with the first defect of the document, and succeeds if there is none. -/
theorem failsFirst_entitiesOfDocument (naming : Naming) (types : TypeTable) (root : Element) :
    FailsFirst (entitiesOfDocument naming types root) (defects types root) := by
  rw [entitiesOfDocument, defects, Element.descendant?_eq_find?]
  refine (failsFirst_require _ _).bind fun holder hholder => ?_
  rw [require_eq_ok.mp hholder, Option.elim_some]
  exact FailsFirst.mapM fun table _ => failsFirst_entityOfTable naming types table

/-- An extraction fails just where the document has a defect, and the error is that of the first of
its defects in the order in which they count. -/
theorem entitiesOfDocument_eq_error (naming : Naming) (types : TypeTable) (root : Element) :
    ((∃ error, entitiesOfDocument naming types root = .error error) ↔
        ∃ error, Defect types root error) ∧
      ∀ error, (error ∈ defects types root ↔ Defect types root error) ∧
        (entitiesOfDocument naming types root = .error error ↔
          (defects types root).head? = some error) := by
  have hfirst := failsFirst_entitiesOfDocument naming types root
  refine ⟨?_, fun error => ⟨mem_defects, hfirst error⟩⟩
  rw [hfirst.exists_error_iff]
  exact exists_congr fun error => mem_defects

end EntityForge.Model
