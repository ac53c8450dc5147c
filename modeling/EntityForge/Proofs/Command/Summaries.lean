import EntityForge.Proofs.Command.DryRuns
import EntityForge.Proofs.Model.Extraction

/-!
# What summaries show

A generation that ends well shows a grid with a row for each entity, in order, and a last row for
all of them. The row of an entity tells its class, its table, the number of its fields, the field
that is its primary key, the number of types that its class must import, and its file. A rehearsal
tells of the same entities, with the whole paths of the files.
-/

namespace EntityForge.Command

open EntityForge.Outcome (bind_eq_ok mapError_eq_ok exists_left_of_forall₂)
open Generation (Settings)
open Model (Entity EntityOf)
open Storage (Path Tree)

/-! ### Rows -/

/-- What a row tells of an entity whose class has a file. -/
structure RowOf (dryRun : Bool) (e : Entity) (file : Path) (row : List String) : Prop where
  /-- The class comes first. -/
  name : row[0]? = some e.name
  /-- The table is told by its stored name. -/
  tableName : row[1]? = some e.tableName
  /-- The fields are counted. -/
  fields : row[2]? = some (toString e.fields.length)
  /-- The first field that is a primary key is named. -/
  keyed : ∀ before f after, e.fields = before ++ f :: after →
    (∀ other ∈ before, other.isPrimaryKey = false) → f.isPrimaryKey = true → row[3]? = some f.name
  /-- A dash stands where no field is a primary key. -/
  keyless : (∀ f ∈ e.fields, f.isPrimaryKey = false) → row[3]? = some "-"
  /-- The types that the fields need from elsewhere are counted, each once. -/
  imports : ∃ names : List String, names.Nodup ∧
    (∀ name, name ∈ names ↔ ∃ f ∈ e.fields, f.javaType.qualifiedName? = some name) ∧
    row[4]? = some (toString names.length)
  /-- The file is told by its path if it was not written, and else by its name if it has one. -/
  file : row[5]? = some (if dryRun then file.text else file.fileName?.getD file.text)
  /-- Nothing else is told. -/
  length : row.length = 6

/-- The dependencies of an entity are the types that its fields need from elsewhere. -/
def DependsOnFields (e : Entity) : Prop :=
  ∀ name, name ∈ e.dependencies.names ↔ ∃ f ∈ e.fields, f.javaType.qualifiedName? = some name

theorem rowOf_classRow (dryRun : Bool) {e : Entity} (file : Path) (h : DependsOnFields e) :
    RowOf dryRun e file (Summary.classRow dryRun (.of e file)) where
  name := rfl
  tableName := rfl
  fields := rfl
  keyed before f after hfields hbefore hf := by
    have hfind : e.primaryKey? = some f := by
      rw [Entity.primaryKey?, List.find?_eq_some_iff_append]
      exact ⟨hf, before, after, hfields, fun other hother => by simp [hbefore other hother]⟩
    simp [Summary.classRow, ClassSummary.of, hfind, orAbsent]
  keyless hnone := by
    have hfind : e.primaryKey? = none := by
      rw [Entity.primaryKey?, List.find?_eq_none]
      exact fun f hf => by simp [hnone f hf]
    simp [Summary.classRow, ClassSummary.of, hfind, orAbsent, absent]
  imports := ⟨e.dependencies.names, e.dependencies.nodup_names, h, rfl⟩
  file := rfl
  length := rfl

/-! ### Grids -/

/-- What the grid of some entities shows under some settings. -/
structure GridOf (dryRun : Bool) (settings : Settings) (entities : List Entity) (grid : Grid) :
    Prop where
  /-- The columns are named. -/
  headings : grid.columns.map (·.heading) =
    ["Entity", "Table", "Fields", "Primary key", "Imports", "Output"]
  /-- There is a row for each entity, in order, and a last row that counts tables and fields. -/
  rows : ∃ rows, grid.rows = rows ++ [["TOTAL", toString entities.length ++ " tables",
      toString (entities.map (·.fields.length)).sum, "-", "-", "-"]] ∧
    List.Forall₂ (fun e => RowOf dryRun e (settings.options.classPath e.name)) entities rows

theorem totalRow_classesOf (o : Generation.Options) (entities : List Entity) :
    Summary.totalRow (classesOf o entities) = ["TOTAL", toString entities.length ++ " tables",
      toString (entities.map (·.fields.length)).sum, "-", "-", "-"] := by
  have hsum : (classesOf o entities).foldr (fun c count => c.fieldCount + count) 0 =
      (entities.map (·.fields.length)).sum := by
    rw [classesOf, List.foldr_map, List.sum, List.foldr_map]
    rfl
  have hlength : (classesOf o entities).length = entities.length := List.length_map ..
  rw [Summary.totalRow, Summary.totalRow.fields, hsum, hlength]
  rfl

theorem gridOf_of_classes {told : Summary} {settings : Settings} {entities : List Entity}
    (h : told.classes = classesOf settings.options entities)
    (hdepends : ∀ e ∈ entities, DependsOnFields e) :
    GridOf told.dryRun settings entities told.grid := by
  refine ⟨rfl, (classesOf settings.options entities).map (Summary.classRow told.dryRun), ?_, ?_⟩
  · rw [Summary.grid, h, totalRow_classesOf]
  · rw [classesOf, List.map_map, List.forall₂_map_right_iff, List.forall₂_same]
    exact fun e he => rowOf_classRow told.dryRun _ (hdepends e he)

/-- The text of a summary ends with its grid. -/
theorem text_eq_append_grid (told : Summary) :
    told.text = String.join (told.opening.map (· ++ "\n")) ++ told.grid.text ++ "\n" := by
  rw [Summary.text, List.map_append, String.join_append, String.append_assoc]
  simp [String.join]

/-! ### Generations -/

/-- What is extracted has the dependencies that its fields need. -/
theorem dependsOnFields_of_entities {storage : Tree} {s : Source} {settings : Settings}
    {entities : List Entity} (h : s.entities storage settings = .ok entities) :
    ∀ e ∈ entities, DependsOnFields e := by
  obtain ⟨text, -, hload⟩ := bind_eq_ok.mp (mapError_eq_ok.mp h)
  obtain ⟨root, -, hentities⟩ := Model.loadText_eq_ok.mp hload
  obtain ⟨tables, -, hforall⟩ := Model.entitiesOfDocument_eq_ok.mp hentities
  intro e he
  obtain ⟨table, -, hof⟩ := exists_left_of_forall₂ hforall he
  exact hof.dependencies

/-- A rehearsal tells of the files that the classes would have. -/
theorem Generate.classes_of_rehearse {storage : Tree} {g : Generate} {settings : Settings}
    {entities : List Entity} {told : Summary}
    (h : g.rehearse storage settings entities = .ok told) :
    told.classes = classesOf settings.options entities ∧ told.dryRun = g.dryRun := by
  have htold : g.summary settings entities
      (entities.map fun e => settings.options.classPath e.name) none = told := by
    rw [rehearse] at h
    obtain ⟨-, -, h⟩ := bind_eq_ok.mp h
    split at h
    · obtain ⟨-, -, h⟩ := bind_eq_ok.mp h
      exact Except.ok.inj h
    · exact Except.ok.inj h
  rw [← htold]
  exact ⟨classes_summary g settings entities none, rfl⟩

/-- A generation that ends well tells of each entity, rehearsed or not. -/
theorem Generate.classes_of_run {storage after : Tree} {g : Generate} {told : Summary}
    (h : g.run storage = (after, .ok told)) : ∃ settings entities,
      g.source.settings storage = .ok settings ∧ g.source.entities storage settings = .ok entities ∧
      told.classes = classesOf settings.options entities ∧ told.dryRun = g.dryRun := by
  obtain ⟨settings, entities, hsettings, hentities, h⟩ := run_eq_ok.mp h
  refine ⟨settings, entities, hsettings, hentities, ?_⟩
  split_ifs at h with hdry
  · exact classes_of_rehearse (Prod.mk.inj h).2
  · obtain ⟨written, files, hwrite, -, rfl⟩ := perform_eq_ok.mp h
    obtain ⟨-, -, rfl⟩ := Generation.files_of_writeSources hwrite
    exact ⟨classes_summary g settings entities g.schemaFile, rfl⟩

/-- A generation that ends well shows, behind a few lines, the grid of the entities it is for. -/
theorem shown_of_run {storage after : Tree} {g : Generate} {text : String}
    (h : (Request.generate g).run storage = (after, .ok text)) :
    ∃ settings entities grid front, g.source.settings storage = .ok settings ∧
      g.source.entities storage settings = .ok entities ∧
      GridOf g.dryRun settings entities grid ∧ text = front ++ grid.text ++ "\n" := by
  obtain ⟨told, hrun, rfl⟩ := run_generate_eq_ok.mp h
  obtain ⟨settings, entities, hsettings, hentities, hclasses, hdry⟩ := Generate.classes_of_run hrun
  have hgrid := gridOf_of_classes hclasses (dependsOnFields_of_entities hentities)
  rw [hdry] at hgrid
  exact ⟨settings, entities, told.grid, _, hsettings, hentities, hgrid, text_eq_append_grid told⟩

end EntityForge.Command
