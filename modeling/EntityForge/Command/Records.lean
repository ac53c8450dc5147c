import EntityForge.Command.Run
import EntityForge.Journal.Record

/-!
# Journals of requests

The records that a request makes while it is carried out: everything up to the step that fails, if
one does. They tell of the same steps as the request takes, from the same storage.
-/

namespace EntityForge.Command

open Generation (Options Settings Writing)
open Journal (Details Level Record Span)
open Model (Entity KeyPath Naming TypeTable)
open Storage (Path Tree)
open Xml (Element)

/-! ### Settings -/

/-- The record of where settings came from. -/
def settingsRecord (storage : Tree) (file : Option Path) : Record where
  level := .debug
  target := "pdm_cli::config"
  message :=
    if file.isNone && !storage.isFile Settings.defaultFile then "no config file, using defaults"
    else "loaded config file"
  details := [("path", .plain (file.getD Settings.defaultFile).text)]

/-- The records of the loading of settings. -/
def settingsRecords (storage : Tree) (file : Option Path) : List Record :=
  match Settings.load storage file with
  | .ok _ => [settingsRecord storage file]
  | .error _ => []

/-! ### Extraction -/

/-- The part of the program that extracts entities. -/
def extractionTarget : String := "pdm_ingest::extract"

/-- The span of the extraction. -/
def extractionSpan (naming : Naming) : Span :=
  ⟨"extract", extractionTarget, .info, [("prefix", .plain naming.tablePrefix)]⟩

/-- The span of a table. -/
def tableSpan (code : String) : Span :=
  ⟨"table", extractionTarget, .debug, [("table", .quoted code)]⟩

/-- A record of the extraction. -/
def extractionRecord (level : Level) (message : String) (details : Details := []) : Record :=
  { level, target := extractionTarget, message, details }

/-- The records of a way that leads to no primary key. -/
def keyPathRecords : KeyPath → List Record
  | .undeclared => [extractionRecord .debug "no primary key declared"]
  | .unreferenced => [extractionRecord .debug "primary key has no key reference"]
  | .unknownKey key =>
    [extractionRecord .debug "primary key references an unknown key" [("key_ref", .quoted key)]]
  | .noColumn key =>
    [extractionRecord .debug "primary key has no columns" [("key_ref", .quoted key)]]
  | .column _ => []

/-- The record of a table that gave an entity. -/
def tableRecord (e : Entity) : Record :=
  extractionRecord .debug "extracted table"
    [("fields", .number e.fields.length), ("primary_key", .quoted (orAbsent e.primaryKeyColId))]

/-- Whether the way to the primary key of a table of a code is looked for at all. -/
def reachesKeyPath (code : String) (table : Element) : Bool :=
  (table.attribute? "Id").isSome &&
    (Model.readOptional Model.creationDate? table "CreationDate" code).isOk

/-- The records of a table. -/
def tableRecords (naming : Naming) (types : TypeTable) (table : Element) : List Record :=
  match table.childText? "Code" with
  | none => []
  | some code =>
    let sought := if reachesKeyPath code table then keyPathRecords (Model.keyPath table) else []
    let made :=
      match Model.entityOfTable naming types table with
      | .ok e => [tableRecord e]
      | .error _ => []
    (sought ++ made).map (·.inside (tableSpan code))

/-- The records of the elements among the tables of a document, up to the first table that gives no
entity, and the entities before it if there is none. -/
def elementsRecords (naming : Naming) (types : TypeTable) : List Element → List Record
  | [] => []
  | e :: rest =>
    if e.name == "Table" then
      tableRecords naming types e ++
        if (Model.entityOfTable naming types e).isOk then elementsRecords naming types rest else []
    else
      extractionRecord .debug "skipping non-table element" [("element", .plain e.name)] ::
        elementsRecords naming types rest

/-- The record of a document that gave entities. -/
def documentRecord (entities : List Entity) : Record :=
  extractionRecord .info "extracted PDM schema"
    [("entities", .number entities.length),
      ("fields", .number (entities.foldr (fun e count => e.fields.length + count) 0))]

/-- The records of the extraction of the entities of a document. -/
def extractionRecords (naming : Naming) (types : TypeTable) (root : Element) : List Record :=
  let elements := ((root.descendant? "Tables").map (·.children)).getD []
  let made :=
    match Model.entitiesOfDocument naming types root with
    | .ok entities => [documentRecord entities]
    | .error _ => []
  (elementsRecords naming types elements ++ made).map (·.inside (extractionSpan naming))

/-! ### Loading -/

/-- The record of a document that was read. -/
def readingRecord (path : Path) (text : String) : Record where
  level := .info
  target := "pdm_ingest"
  message := "read PDM document"
  details := [("path", .plain path.text), ("bytes", .number text.utf8ByteSize)]

/-- The records of the loading of a document. -/
def loadingRecords (storage : Tree) (naming : Naming) (path : Path) : List Record :=
  match storage.readText path with
  | .error _ => []
  | .ok text =>
    readingRecord path text ::
      match Model.parse (Model.withoutMark text) with
      | .ok root => extractionRecords naming .standard root
      | .error _ => []

/-! ### Writing -/

/-- The record of a directory that is made for classes. -/
def directoryRecord (o : Options) : Record where
  level := .debug
  target := "pdm_report::java"
  message := "creating package directory"
  details := [("dir", .plain o.packageDir.text)]

/-- The record of a class that was written. -/
def classRecord (o : Options) (e : Entity) (path : Path) : Record where
  level := .info
  target := "pdm_report::java"
  message := "generated entity"
  details :=
    [("entity", .plain e.name), ("template", .plain o.templateLabel), ("path", .plain path.text)]

/-- The records of the writing of classes. -/
def writingRecords (storage : Tree) (o : Options) (entities : List Entity) : List Record :=
  match Generation.plan storage o entities with
  | .error _ => []
  | .ok planned =>
    let directory := if Generation.lacksDirectory storage o then [directoryRecord o] else []
    directory ++
      List.zipWith (classRecord o) entities (Generation.writePlanned storage o planned).written

/-- The record of a schema that was written. -/
def schemaRecord (path : Path) (entities : List Entity) : Record where
  level := .info
  target := "pdm_report::schema_json"
  message := "wrote schema JSON"
  details := [("path", .plain path.text), ("entities", .number entities.length)]

/-! ### Requests -/

/-- The part of the program that carries out requests. -/
def requestTarget : String := "pdm_codegen::commands"

/-- The span of a request. -/
def requestSpan (name : String) (document : Path) : Span :=
  ⟨name, requestTarget, .info, [("pdm_file", .plain document.text)]⟩

/-- The record of a generation that is complete. -/
def completionRecord (entities : List Entity) (dryRun : Bool) : Record where
  level := .info
  target := requestTarget
  message := "generation complete"
  details :=
    [("entities", .number entities.length), ("dry_run", .flag dryRun), ("elapsed_ms", .elapsed)]

/-- The records of the writing of the classes and of the schema. -/
def performingRecords (storage : Tree) (g : Generate) (o : Options) (entities : List Entity) :
    List Record :=
  let written := writingRecords storage o entities
  match Generation.writeSources storage o entities with
  | (_, .error _) => written
  | (storage', .ok _) =>
    match g.writeSchemaFile storage' entities with
    | (_, .error _) => written
    | (_, .ok ()) =>
      written ++ (g.schemaFile.map (schemaRecord · entities)).toList ++
        [completionRecord entities false]

/-- The records of a generation, once the settings are loaded. -/
def generationRecords (storage : Tree) (g : Generate) (settings : Settings) : List Record :=
  loadingRecords storage settings.naming g.source.document ++
    match g.source.entities storage settings with
    | .error _ => []
    | .ok entities =>
      if g.dryRun then
        if (g.rehearse storage settings entities).isOk then [completionRecord entities true] else []
      else performingRecords storage g settings.options entities

/-- The records of work on a source: those of its settings, then those of the work with them. -/
def sourceRecords (storage : Tree) (name : String) (s : Source) (work : Settings → List Record) :
    List Record :=
  settingsRecords storage s.settingsFile ++
    match s.settings storage with
    | .ok settings => (work settings).map (·.inside (requestSpan name s.document))
    | .error _ => []

/-- The records of a request. -/
def Request.records (storage : Tree) : Request → List Record
  | .generate g => sourceRecords storage "generate" g.source (generationRecords storage g)
  | .inspect i =>
    sourceRecords storage "inspect" i.source fun settings =>
      loadingRecords storage settings.naming i.source.document
  | .types => []

end EntityForge.Command
