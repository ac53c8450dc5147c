import EntityForge.Generation.Options
import EntityForge.Generation.TemplateFile
import EntityForge.Java.ClassText

/-!
# Sources

One source file is written for each entity. All files are planned before the first one is written:
an entity whose columns clash, two entities with one file, a file that is there already and a
template that fails are found while the storage is still as it was.
-/

namespace EntityForge.Generation

open Model (Entity Field)
open Storage (Path Tree)

/-! ### The text of a class -/

/-- Where the texts of classes come from. -/
inductive Origin
  /-- A style. -/
  | style (s : Java.Style)
  /-- A template file. -/
  | file (f : TemplateFile)

/-- Where the texts of classes come from under some options. -/
def Options.origin (storage : Tree) (o : Options) : Except Failure Origin :=
  match o.templateFile with
  | some path => .file <$> TemplateFile.load storage path
  | none => return .style o.style

/-- The text of the class of an entity. -/
def Origin.render (storage : Tree) (origin : Origin) (package : String) (e : Entity) :
    Except Failure String :=
  match origin with
  | .style s => return Java.classText s package e
  | .file f => f.render storage e package

/-- Refuses a package whose segments are not all identifiers. -/
def Options.validate (o : Options) : Except Failure Unit :=
  match Java.badSegment? o.package with
  | some segment => throw (.refusal (invalidPackageMessage o.package segment))
  | none => return ()

/-! ### Planning -/

/-- The first field that has the name of one before it, behind the one it clashes with. -/
def fieldClash? : List Field → List Field → Option (Field × Field)
  | _, [] => none
  | before, f :: rest =>
    match before.find? (·.name == f.name) with
    | some first => some (first, f)
    | none => fieldClash? (f :: before) rest

/-- The wording for two columns of one field name. -/
def fieldClashMessage (e : Entity) (first second : Field) : String :=
  s!"columns {first.colName} and {second.colName} of table {e.tableName} " ++
    s!"both map to field {second.name}"

/-- The wording for two entities of one class name. -/
def classClashMessage (e : Entity) : String :=
  s!"entity name {e.name} is generated by more than one table ({e.tableName})"

/-- The wording for a file that is there already. -/
def existingMessage (path : Path) : String :=
  s!"{path.text} already exists; enable overwrite to replace it"

/-- A file that is to be written. -/
structure Planned where
  /-- The path of the file. -/
  path : Path
  /-- The text of the file. -/
  source : String
  deriving DecidableEq, Repr

/-- The file of an entity, behind those of other entities. -/
def planOne (storage : Tree) (o : Options) (origin : Origin) (before : List Path) (e : Entity) :
    Except Failure Planned := do
  if let some (first, second) := fieldClash? [] e.fields then
    throw (.refusal (fieldClashMessage e first second))
  let path := o.classPath e.name
  if before.any path.same then throw (.refusal (classClashMessage e))
  if storage.exists? path && !o.overwrite then throw (.refusal (existingMessage path))
  let source ← (origin.render storage o.package e).mapError (·.during s!"render entity {e.name}")
  return { path, source }

/-- The files of entities, behind those of other entities. -/
def planAll (storage : Tree) (o : Options) (origin : Origin) :
    List Path → List Entity → Except Failure (List Planned)
  | _, [] => return []
  | before, e :: rest => do
    let p ← planOne storage o origin before e
    return p :: (← planAll storage o origin (p.path :: before) rest)

/-- The files of entities. -/
def plan (storage : Tree) (o : Options) (entities : List Entity) :
    Except Failure (List Planned) := do
  o.validate
  let origin ← o.origin storage
  planAll storage o origin [] entities

/-! ### Writing -/

/-- How far the writing of files has come. -/
structure Writing where
  /-- The storage afterwards. -/
  storage : Tree
  /-- The paths of the files that were written, in order. -/
  written : List Path := []
  /-- Why the writing stopped, if it did. -/
  failure : Option Failure := none

/-- Writes files in order, up to the first that cannot be written. -/
def writeAll (storage : Tree) : List Planned → Writing
  | [] => { storage }
  | p :: rest =>
    match storing s!"write {p.path.text}" (storage.writeText p.path p.source) with
    | .error failure => { storage, failure := some failure }
    | .ok storage' =>
      let w := writeAll storage' rest
      { w with written := p.path :: w.written }

/-- Whether the directory of the classes is missing. -/
def lacksDirectory (storage : Tree) (o : Options) : Bool :=
  !storage.exists? o.packageDir

/-- Writes planned files, after making the directory of the classes if it is missing. -/
def writePlanned (storage : Tree) (o : Options) (planned : List Planned) : Writing :=
  if lacksDirectory storage o then
    match storage.makeDirectories o.packageDir with
    | (storage', .ok ()) => writeAll storage' planned
    | (storage', .error cause) =>
      { storage := storage'
        failure := some
          { activities := [s!"create {o.packageDir.text}"], root := .storage cause } }
  else writeAll storage planned

/-- Plans and writes the files of entities. -/
def writing (storage : Tree) (o : Options) (entities : List Entity) : Writing :=
  match plan storage o entities with
  | .error failure => { storage, failure := some failure }
  | .ok planned => writePlanned storage o planned

/-- What a writing comes to: the paths of the files, or why it stopped. -/
def Writing.result (w : Writing) : Except Failure (List Path) :=
  match w.failure with
  | some failure => .error failure
  | none => .ok w.written

/-- Writes the source files of entities. The storage is returned also where this fails. -/
def writeSources (storage : Tree) (o : Options) (entities : List Entity) :
    Tree × Except Failure (List Path) :=
  let w := writing storage o entities
  (w.storage, w.result)

end EntityForge.Generation
