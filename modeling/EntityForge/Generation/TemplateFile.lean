import EntityForge.Generation.Failure
import EntityForge.Model.Schema
import EntityForge.Template.Directory

/-!
# Template files

A template file is read once and gives a text for each entity. The template sees the package, the
entity in its schema form and the names that the class imports, and it can include other templates
of its directory.
-/

namespace EntityForge.Generation

open Model (Entity)
open Storage (Path Tree)
open Template (Value)

/-- A template file that has been read. -/
structure TemplateFile where
  /-- The path of the file. -/
  path : Path
  /-- The directory of the file. -/
  directory : Path
  /-- The template. -/
  template : Template.Parsed

namespace TemplateFile

/-- The template file at a path. -/
def load (storage : Tree) (path : Path) : Except Failure TemplateFile :=
  match path.fileName? with
  | none => throw (.refusal s!"invalid template path {path.text}")
  | some name =>
    let directory := path.properParent?.getD ⟨"."⟩
    match Template.loadFrom storage directory name with
    | .ok template => return { path, directory, template }
    | .error e => throw { activities := [s!"load template {path.text}"], root := .template e }

/-- The names that a template sees. -/
def names (e : Entity) (package : String) : List (String × Value) :=
  [("package", .ofString package),
    ("entity", .ofJson e.toValue),
    ("dependencies", .list (e.dependencies.names.map Value.ofString))]

/-- The text for an entity. -/
def render (storage : Tree) (file : TemplateFile) (e : Entity) (package : String) :
    Except Failure String :=
  (file.template.render (Template.loadFrom storage file.directory) (names e package)).mapError
    fun error =>
      { activities := [s!"render template {file.path.text} for entity {e.name}"]
        root := .template error }

end TemplateFile

end EntityForge.Generation
