import EntityForge.Command.Request
import EntityForge.Command.Summary
import EntityForge.Generation.SchemaFile
import EntityForge.Generation.Sources

/-!
# Carrying out requests

A request changes the storage, shows a text, or fails. The journal of a request is kept elsewhere:
nothing here depends on it.
-/

namespace EntityForge.Command

open Generation (Failure Options Settings TemplateFile)
open Model (Entity)
open Storage (Path Tree)

/-! ### Loading -/

/-- The settings of a source. -/
def Source.settings (storage : Tree) (s : Source) : Except Failure Settings := do
  return (← Settings.load storage s.settingsFile).override s.overrides

/-- The entities of a source under settings. -/
def Source.entities (storage : Tree) (s : Source) (settings : Settings) :
    Except Failure (List Entity) :=
  (Model.loadFile storage settings.naming s.document).mapError fun error =>
    { activities := [s!"extract {s.document.text}"], root := .loading error }

/-! ### Generating -/

namespace Generate

/-- The summary of a generation whose classes went to some files. -/
def summary (g : Generate) (settings : Settings) (entities : List Entity) (files : List Path)
    (schemaFile : Option Path) : Summary where
  document := g.source.document
  package := settings.package
  templateLabel := settings.options.templateLabel
  classes := List.zipWith ClassSummary.of entities files
  schemaFile := schemaFile
  dryRun := g.dryRun

/-- Checks what can be checked without writing. -/
def rehearse (storage : Tree) (g : Generate) (settings : Settings) (entities : List Entity) :
    Except Failure Summary := do
  let options := settings.options
  options.validate
  if let some path := options.templateFile then
    let _ ← TemplateFile.load storage path
  return g.summary settings entities (entities.map fun e => options.classPath e.name) none

/-- Writes the schema, if it is asked for. -/
def writeSchemaFile (storage : Tree) (g : Generate) (entities : List Entity) :
    Tree × Except Failure Unit :=
  match g.schemaFile with
  | some path => Generation.writeSchema storage path entities
  | none => (storage, .ok ())

/-- Writes the classes and the schema. -/
def perform (storage : Tree) (g : Generate) (settings : Settings) (entities : List Entity) :
    Tree × Except Failure Summary :=
  match Generation.writeSources storage settings.options entities with
  | (storage', .error failure) => (storage', .error failure)
  | (storage', .ok files) =>
    match g.writeSchemaFile storage' entities with
    | (storage'', .error failure) => (storage'', .error failure)
    | (storage'', .ok ()) => (storage'', .ok (g.summary settings entities files g.schemaFile))

/-- Generates the classes of a document. The storage is returned also where this fails. -/
def run (storage : Tree) (g : Generate) : Tree × Except Failure Summary :=
  match g.source.settings storage with
  | .error failure => (storage, .error failure)
  | .ok settings =>
    match g.source.entities storage settings with
    | .error failure => (storage, .error failure)
    | .ok entities =>
      if g.dryRun then (storage, g.rehearse storage settings entities)
      else g.perform storage settings entities

end Generate

/-! ### Showing -/

/-- The text that shows the entities of a document. -/
def Inspect.run (storage : Tree) (i : Inspect) : Except Failure String := do
  let settings ← i.source.settings storage
  let entities ← i.source.entities storage settings
  return if i.asJson then Model.schemaText entities ++ "\n" else entitiesText entities

/-- Carries out a request. The storage is returned also where this fails. -/
def Request.run (storage : Tree) : Request → Tree × Except Failure String
  | .generate g =>
    let (storage', result) := g.run storage
    (storage', result.map (·.text))
  | .inspect i => (storage, i.run storage)
  | .types => (storage, .ok (typesText .standard))

end EntityForge.Command
