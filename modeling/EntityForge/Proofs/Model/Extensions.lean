import EntityForge.Proofs.Model.TypeTables
import EntityForge.Proofs.Outcome

/-!
# More column types

A table of column types may grow. What a document gives under the smaller table it gives under the
larger one, and the errors that no table decides stay as they are. Only a column type that had no
Java type can have one now, and then the extraction goes on behind it. An extraction stops at its
first error, so whatever comes up behind such a column type was not reached before.
-/

namespace EntityForge.Model

open Outcome
open Xml (Element)

/-! ### Tables that grow -/

/-- A table has the Java type that another table has for a column type, wherever that one has
any. -/
def TypeTable.Extends (larger types : TypeTable) : Prop :=
  ∀ columnType t, types.lookup columnType = some t → larger.lookup columnType = some t

/-- The keyword of a keyword is that keyword. -/
theorem keyword_keyword (columnType : String) :
    keyword (keyword columnType) = keyword columnType := by
  obtain ⟨⟨_, _, _, -, -, -, hparenthesis, -⟩, hfirst, hlast⟩ := isKeyword_keyword columnType
  exact (isKeyword_iff.mp ⟨⟨[], [], [], by simp, by simp, by simp, hparenthesis, by simp⟩, hfirst,
    hlast⟩).symm

namespace TypeTable

variable {types larger : TypeTable}

/-- A table extends another one just where it has the entries of that one, but for those whose
keyword is not the keyword of any column type. -/
theorem extends_iff :
    larger.Extends types ↔
      ∀ k t, keyword k = k → (k, t) ∈ types.entries → (k, t) ∈ larger.entries := by
  constructor
  · intro h k t hk hmem
    have hfound : types.lookup k = some t := lookup_eq_some.mpr (by rwa [hk])
    have hlarger := lookup_eq_some.mp (h k t hfound)
    rwa [hk] at hlarger
  · intro h columnType t hfound
    rw [lookup_eq_some] at hfound ⊢
    exact h _ t (keyword_keyword columnType) hfound

/-- Entries for other keywords extend the table of a list. -/
theorem extends_ofList_append {entries more : List (String × JavaType)}
    (h : ∀ entry ∈ more, entry.1 ∉ entries.map Prod.fst) :
    (ofList (entries ++ more)).Extends (ofList entries) := by
  refine extends_iff.mpr fun k t _ hmem => ?_
  obtain ⟨before, after, rfl, hafter⟩ := mem_entries_ofList.mp hmem
  refine mem_entries_ofList.mpr ⟨before, after ++ more, by simp, fun entry hentry => ?_⟩
  rcases List.mem_append.mp hentry with hentry | hentry
  · exact hafter entry hentry
  · rintro rfl
    exact h entry hentry (by simp)

end TypeTable

/-! ### Extractions -/

/-- The error of a column type without a Java type. -/
def ExtractionError.IsUnmappable (error : ExtractionError) : Prop :=
  ∃ columnType table, error = .unmappableType columnType table

variable {types larger : TypeTable}

theorem require_lookup_remains (h : larger.Extends types) (columnType table : String) :
    Remains ExtractionError.IsUnmappable
      (require (.unmappableType columnType table) (types.lookup columnType))
      (require (.unmappableType columnType table) (larger.lookup columnType)) := by
  cases hfound : types.lookup columnType with
  | none => exact .faded ⟨columnType, table, rfl⟩ _
  | some t =>
    rw [h columnType t hfound]
    exact .same _

theorem fieldOfColumn_remains (h : larger.Extends types) (table : String)
    (primaryKey : Option String) (column : Element) :
    Remains ExtractionError.IsUnmappable (fieldOfColumn types table primaryKey column)
      (fieldOfColumn larger table primaryKey column) := by
  rw [fieldOfColumn, fieldOfColumn]
  refine (Remains.same _).bind fun colId => (Remains.same _).bind fun colName => ?_
  refine (Remains.same _).bind fun colType => ?_
  exact (require_lookup_remains h colType table).bind fun javaType => .same _

theorem entityOfTable_remains (h : larger.Extends types) (naming : Naming) (table : Element) :
    Remains ExtractionError.IsUnmappable (entityOfTable naming types table)
      (entityOfTable naming larger table) := by
  rw [entityOfTable, entityOfTable]
  refine (Remains.same _).bind fun code => (Remains.same _).bind fun tableId => ?_
  refine (Remains.same _).bind fun createDate => (Remains.same _).bind fun columns => ?_
  exact (Remains.mapM (fieldOfColumn_remains h code _) _).bind fun fields => .same _

theorem entitiesOfDocument_remains (h : larger.Extends types) (naming : Naming) (root : Element) :
    Remains ExtractionError.IsUnmappable (entitiesOfDocument naming types root)
      (entitiesOfDocument naming larger root) := by
  rw [entitiesOfDocument, entitiesOfDocument]
  exact (Remains.same _).bind fun tables => .mapM (entityOfTable_remains h naming) _

/-- Under a table that extends another one a document gives the same entities, if it gave any, and
the same error, unless that is the error of a column type without a Java type. -/
theorem entitiesOfDocument_extended (h : larger.Extends types) (naming : Naming) (root : Element) :
    (∀ entities, entitiesOfDocument naming types root = .ok entities →
        entitiesOfDocument naming larger root = .ok entities) ∧
      ∀ error, entitiesOfDocument naming types root = .error error →
        (∀ columnType table, error ≠ .unmappableType columnType table) →
        entitiesOfDocument naming larger root = .error error := by
  have hremains := entitiesOfDocument_remains h naming root
  refine ⟨fun entities hentities => hremains.eq_ok hentities, fun error herror hother => ?_⟩
  refine hremains.eq_error herror ?_
  rintro ⟨columnType, table, rfl⟩
  exact hother columnType table rfl

/-- A document with a table of columns of some types and lengths. -/
def measuredDocument (columns : List (String × String)) : Element :=
  ⟨"Model", [], [⟨"Tables", [], [⟨"Table", [("Id", "o1")], [⟨"Code", [], [], "t_order"⟩,
    ⟨"Columns", [], columns.map fun (type, length) => ⟨"Column", [("Id", "o2")],
      [⟨"Code", [], [], "total"⟩, ⟨"DataType", [], [], type⟩, ⟨"Length", [], [], length⟩], ""⟩,
      ""⟩], ""⟩], ""⟩], ""⟩

/-- Another keyword leaves an order as it is, and the length that is none is told as before, though
a column of the new type stands behind it. -/
theorem entitiesOfDocument_measured :
    (TypeTable.ofList [("int", .integer), ("uuid", .string)]).Extends
        (TypeTable.ofList [("int", .integer)]) ∧
      (∃ e, entitiesOfDocument {} (.ofList [("int", .integer)])
          (measuredDocument [("int(11)", "11")]) = .ok [e] ∧
        entitiesOfDocument {} (.ofList [("int", .integer), ("uuid", .string)])
          (measuredDocument [("int(11)", "11")]) = .ok [e]) ∧
      entitiesOfDocument {} (.ofList [("int", .integer), ("uuid", .string)])
          (measuredDocument [("int", "wide"), ("uuid", "x")]) =
        .error (.invalidValue "Length" "wide" "t_order") := by
  have hextends : (TypeTable.ofList ([("int", .integer)] ++ [("uuid", .string)])).Extends
      (TypeTable.ofList [("int", .integer)]) :=
    TypeTable.extends_ofList_append (List.forall_mem_singleton.mpr (by decide))
  refine ⟨hextends, ?_, ?_⟩
  · have hcount : (entitiesOfDocument {} (.ofList [("int", .integer)])
        (measuredDocument [("int(11)", "11")])).toOption.map List.length = some 1 := by
      decide +kernel
    cases hentities : entitiesOfDocument {} (.ofList [("int", .integer)])
        (measuredDocument [("int(11)", "11")]) with
    | error f => rw [hentities] at hcount; cases hcount
    | ok entities =>
      rw [hentities] at hcount
      obtain ⟨e, rfl⟩ := List.length_eq_one_iff.mp (Option.some.inj hcount)
      exact ⟨e, rfl, (entitiesOfDocument_extended hextends {} _).1 [e] hentities⟩
  · have herror : entitiesOfDocument {} (.ofList [("int", .integer)])
        (measuredDocument [("int", "wide"), ("uuid", "x")]) =
        .error (.invalidValue "Length" "wide" "t_order") := rfl
    exact (entitiesOfDocument_extended hextends {} _).2 _ herror nofun

end EntityForge.Model
