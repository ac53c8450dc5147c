import EntityForge.Proofs.Model.Extraction
import EntityForge.Proofs.Model.Loading
import EntityForge.Proofs.Xml.Reading

/-!
# Primary keys

An entity names the column that is its primary key, and each field says whether it is that column.
The two agree where the way from the table to its primary key ends at one column of the table. The
last step of the way is not taken when the key is resolved: a key that refers to a column of another
table, or to none, is named by the entity all the same, and then no field is the primary key. Where
columns share an identifier, all of them are.
-/

namespace EntityForge.Model

open Outcome
open Xml (Element)

/-- The columns of a table that have an identifier. -/
def columnsOfId (table : Element) (id : String) : List Element :=
  ((table.child? "Columns").elim [] (·.children.filter (·.name == "Column"))).filter fun column =>
    column.attribute? "Id" == some id

/-- If the way from a table to its primary key leads to an identifier, one column of the table has
it. -/
def KeyResolves (table : Element) : Prop :=
  ∀ id, (keyPath table).column? = some id → ∃ column, columnsOfId table id = [column]

/-- The primary key that an entity names is that of exactly one field. -/
structure KeyMarked (e : Entity) : Prop where
  /-- If the entity names none, no field is a primary key. -/
  absent : e.primaryKeyColId = none → ∀ f ∈ e.fields, f.isPrimaryKey = false
  /-- If it names one, one field is a primary key, namely the one it names. -/
  present : ∀ id, e.primaryKeyColId = some id →
    ∃ f, e.fields.filter (·.isPrimaryKey) = [f] ∧ f.colId = id

/-- A field is a primary key only if the entity names it. -/
theorem primaryKeyColId_of_isPrimaryKey {naming : Naming} {types : TypeTable} {table : Element}
    {e : Entity} (h : EntityOf naming types table e) {f : Field} (hf : f ∈ e.fields)
    (hkey : f.isPrimaryKey = true) : e.primaryKeyColId = some f.colId := by
  obtain ⟨code, columns, -, -, -, -, -, hfields⟩ := h.code
  obtain ⟨column, -, hfield⟩ := exists_left_of_forall₂ hfields hf
  exact hfield.isPrimaryKey.mp hkey

/-- The fields that are primary keys are those of the columns that have the identifier. -/
theorem filter_isPrimaryKey {naming : Naming} {types : TypeTable} {table : Element} {e : Entity}
    (h : EntityOf naming types table e) {id : String} (hid : e.primaryKeyColId = some id) :
    ∃ code, List.Forall₂ (FieldOf types code e.primaryKeyColId) (columnsOfId table id)
      (e.fields.filter (·.isPrimaryKey)) := by
  obtain ⟨code, columns, -, hcolumns, -, -, -, hfields⟩ := h.code
  refine ⟨code, ?_⟩
  rw [columnsOfId, hcolumns, Option.elim_some]
  refine List.rel_filter (fun column f hfield => ?_) hfields
  show (column.attribute? "Id" == some id) = true ↔ f.isPrimaryKey = true
  rw [hfield.isPrimaryKey, hfield.colId, hid, beq_iff_eq]
  exact eq_comm

/-- The fields of an entity agree with the primary key it names just where the key leads to one
column of the table. -/
theorem keyMarked_iff {naming : Naming} {types : TypeTable} {table : Element} {e : Entity}
    (h : EntityOf naming types table e) : KeyMarked e ↔ KeyResolves table := by
  constructor
  · intro hmarked id hid
    rw [← h.primaryKeyColId] at hid
    obtain ⟨f, hf, -⟩ := hmarked.present id hid
    obtain ⟨code, hfilter⟩ := filter_isPrimaryKey h hid
    rw [hf] at hfilter
    obtain ⟨column, rest, -, hrest, hcolumns⟩ := List.forall₂_cons_right_iff.mp hfilter
    rw [List.forall₂_nil_right_iff.mp hrest] at hcolumns
    exact ⟨column, hcolumns⟩
  · intro hresolves
    refine ⟨fun hnone f hf => ?_, fun id hid => ?_⟩
    · rw [Bool.eq_false_iff]
      intro hkey
      have hsome := primaryKeyColId_of_isPrimaryKey h hf hkey
      rw [hnone] at hsome
      cases hsome
    · obtain ⟨column, hcolumn⟩ := hresolves id (h.primaryKeyColId ▸ hid)
      obtain ⟨code, hfilter⟩ := filter_isPrimaryKey h hid
      rw [hcolumn] at hfilter
      obtain ⟨f, rest, hfield, hrest, hfields⟩ := List.forall₂_cons_left_iff.mp hfilter
      rw [List.forall₂_nil_left_iff.mp hrest] at hfields
      have hmem : f ∈ e.fields.filter (·.isPrimaryKey) := by
        rw [hfields]
        exact List.mem_cons_self
      have hkey := (List.mem_filter.mp hmem).2
      have hsame := hfield.isPrimaryKey.mp hkey
      rw [hid] at hsame
      exact ⟨f, hfields, (Option.some.inj hsame).symm⟩

/-! ### Loaded entities -/

/-- In what is loaded from a text, the fields of an entity agree with the primary key that it names
just where the key of its table leads to one column. -/
theorem keyMarked_iff_of_loadText {naming : Naming} {text : String} {entities : List Entity}
    (h : loadText naming text = .ok entities) :
    ∃ root tables, Xml.parseDocument (withoutMark text) = .ok root ∧ HoldsTables root tables ∧
      List.Forall₂ (fun table e => KeyMarked e ↔ KeyResolves table) tables entities := by
  obtain ⟨root, hroot, hentities⟩ := loadText_eq_ok.mp h
  obtain ⟨tables, htables, hforall⟩ := entitiesOfDocument_eq_ok.mp hentities
  exact ⟨root, tables, hroot, htables, hforall.imp fun _ _ => keyMarked_iff⟩

/-- A table with one column, whose key refers to the column of an identifier. -/
def keyedTable (ref : String) : Element :=
  ⟨"Table", [("Id", "o1")], [⟨"Code", [], [], "t_order"⟩,
    ⟨"PrimaryKey", [], [⟨"Key", [("Ref", "o5")], [], ""⟩], ""⟩,
    ⟨"Keys", [], [⟨"Key", [("Id", "o5")], [⟨"Key.Columns", [],
      [⟨"Column", [("Ref", ref)], [], ""⟩], ""⟩], ""⟩], ""⟩,
    ⟨"Columns", [], [⟨"Column", [("Id", "o2")],
      [⟨"Code", [], [], "id"⟩, ⟨"DataType", [], [], "int"⟩], ""⟩], ""⟩], ""⟩

/-- A document with that table. -/
def keyedDocument (ref : String) : String :=
  String.join ["<Model><Tables><Table Id='o1'>", "<Code>t_order</Code>",
    "<PrimaryKey><Key Ref='o5'/></PrimaryKey>", "<Keys><Key Id='o5'><Key.Columns>", "<Column Ref='",
    ref, "'/></Key.Columns></Key></Keys>", "<Columns><Column Id='o2'>",
    "<Code>id</Code><DataType>int</DataType>", "</Column></Columns>", "</Table></Tables></Model>"]

/-- What the document holds. -/
def keyedRoot (ref : String) : Element :=
  ⟨"Model", [], [⟨"Tables", [], [keyedTable ref], ""⟩], ""⟩

theorem withoutMark_keyedDocument (ref : String) :
    withoutMark (keyedDocument ref) = keyedDocument ref :=
  withoutMark_join rfl (by decide) _

theorem loadText_keyedDocument {ref : String}
    (hparse : Xml.parseDocument (keyedDocument ref) = .ok (keyedRoot ref))
    (hok : (entitiesOfDocument {} .standard (keyedRoot ref)).isOk = true) :
    ∃ e, loadText {} (keyedDocument ref) = .ok [e] ∧ EntityOf {} .standard (keyedTable ref) e := by
  cases h : entitiesOfDocument {} .standard (keyedRoot ref) with
  | error f => rw [h] at hok; cases hok
  | ok entities =>
    obtain ⟨tables, ⟨holder, hholder, htables⟩, hentities⟩ := entitiesOfDocument_eq_ok.mp h
    cases hholder
    have htable : tables = [keyedTable ref] := htables.symm
    rw [htable, List.forall₂_cons_left_iff] at hentities
    obtain ⟨e, rest, he, hrest, rfl⟩ := hentities
    rw [List.forall₂_nil_left_iff.mp hrest] at h
    exact ⟨e, loadText_eq_ok.mpr ⟨_, by rw [withoutMark_keyedDocument, hparse], h⟩, he⟩

/-- A key that refers to the column of its table marks the field of that column. -/
theorem keyMarked_keyedDocument :
    ∃ e, loadText {} (keyedDocument "o2") = .ok [e] ∧ KeyMarked e := by
  have hparse : Xml.parseDocument (keyedDocument "o2") = .ok (keyedRoot "o2") := by
    rw [keyedDocument, Xml.parseDocument_of_toList String.toList_join (by decide +kernel)]
    decide +kernel
  obtain ⟨e, he, -⟩ := loadText_keyedDocument hparse (by decide +kernel)
  obtain ⟨root, tables, hroot, ⟨holder, hholder, htables⟩, hmarked⟩ := keyMarked_iff_of_loadText he
  rw [withoutMark_keyedDocument, hparse] at hroot
  cases hroot
  cases hholder
  have htable : tables = [keyedTable "o2"] := htables.symm
  rw [htable, List.forall₂_cons] at hmarked
  refine ⟨e, he, hmarked.1.mpr fun id hid => ?_⟩
  have hkey : (keyPath (keyedTable "o2")).column? = some "o2" := by decide +kernel
  rw [hkey] at hid
  cases hid
  exact ⟨_, rfl⟩

/-- A key that refers to no column of its table is named by the entity and marks no field. -/
theorem not_keyMarked_keyedDocument :
    ∃ e, loadText {} (keyedDocument "o9") = .ok [e] ∧ e.primaryKeyColId = some "o9" ∧
      ¬ KeyMarked e := by
  have hparse : Xml.parseDocument (keyedDocument "o9") = .ok (keyedRoot "o9") := by
    rw [keyedDocument, Xml.parseDocument_of_toList String.toList_join (by decide +kernel)]
    decide +kernel
  obtain ⟨e, he, hentity⟩ := loadText_keyedDocument hparse (by decide +kernel)
  have hkey : (keyPath (keyedTable "o9")).column? = some "o9" := by decide +kernel
  refine ⟨e, he, hentity.primaryKeyColId.trans hkey, fun hmarked => ?_⟩
  obtain ⟨column, hcolumn⟩ := (keyMarked_iff hentity).mp hmarked "o9" hkey
  have hnone : columnsOfId (keyedTable "o9") "o9" = [] := rfl
  rw [hnone] at hcolumn
  cases hcolumn

end EntityForge.Model
