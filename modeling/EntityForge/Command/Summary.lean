import EntityForge.Command.Listing
import EntityForge.Storage.Path

/-!
# Summaries

What is shown after a generation: where everything came from, and a row for each class.
-/

namespace EntityForge.Command

open Model (Entity)
open Storage (Path)

/-- What is told of one class. -/
structure ClassSummary where
  /-- The name of the class. -/
  name : String
  /-- The stored name of the table. -/
  tableName : String
  /-- The number of fields. -/
  fieldCount : Nat
  /-- The name of the field that is the primary key. -/
  primaryKey : Option String
  /-- The number of types that the class imports for its fields. -/
  importCount : Nat
  /-- The file of the class. -/
  file : Path
  deriving DecidableEq, Repr

/-- What is told of the class of an entity in a file. -/
def ClassSummary.of (e : Entity) (file : Path) : ClassSummary where
  name := e.name
  tableName := e.tableName
  fieldCount := e.fields.length
  primaryKey := e.primaryKey?.map (·.name)
  importCount := e.dependencies.names.length
  file := file

/-- What is told of a generation. -/
structure Summary where
  /-- The document. -/
  document : Path
  /-- The package. -/
  package : String
  /-- The name of the style, or the template file. -/
  templateLabel : String
  /-- The classes. -/
  classes : List ClassSummary
  /-- The file with the schema, if it was written. -/
  schemaFile : Option Path
  /-- Whether nothing was written. -/
  dryRun : Bool
  deriving DecidableEq, Repr

namespace Summary

/-- The columns of the grid. -/
def columns : List Grid.Column :=
  [{ heading := "Entity", bound := .atMostPercent 25 },
    { heading := "Table", bound := .atMostPercent 25 },
    { heading := "Fields", bound := .atLeast 6, alignment := .right },
    { heading := "Primary key", bound := .atLeast 11 },
    { heading := "Imports", bound := .atLeast 7, alignment := .right },
    { heading := "Output", bound := .atMostPercent 30 }]

/-- How the file of a class is told: whole where it was not written, else by its name. -/
def fileText (dryRun : Bool) (file : Path) : String :=
  if dryRun then file.text else file.fileName?.getD file.text

/-- The row of a class. -/
def classRow (dryRun : Bool) (c : ClassSummary) : List String :=
  [c.name, c.tableName, toString c.fieldCount, orAbsent c.primaryKey, toString c.importCount,
    fileText dryRun c.file]

/-- The last row. -/
def totalRow (classes : List ClassSummary) : List String :=
  ["TOTAL", s!"{classes.length} tables", fields, absent, absent, absent]
where
  /-- The number of fields of all classes. -/
  fields : String := toString (classes.foldr (fun c count => c.fieldCount + count) 0)

/-- The grid of a summary. -/
def grid (s : Summary) : Grid where
  frame := .ruled
  pageWidth := 140
  fillsPage := true
  columns := columns
  rows := s.classes.map (classRow s.dryRun) ++ [totalRow s.classes]

/-- How the package is told. -/
def packageText (s : Summary) : String :=
  if s.package = "" then "(default)" else s.package

/-- The lines above the grid. -/
def opening (s : Summary) : List String :=
  [s!"PDM file: {s.document.text}",
    s!"Package: {s.packageText}",
    s!"Template: {s.templateLabel}"] ++
  (s.schemaFile.map fun path => s!"Schema JSON: {path.text}").toList ++
  if s.dryRun then ["Dry run: no files written"] else []

/-- The text of a summary. -/
def text (s : Summary) : String :=
  String.join ((s.opening ++ [s.grid.text]).map (· ++ "\n"))

end Summary

end EntityForge.Command
