import EntityForge.Generation.Failure
import EntityForge.Model.Schema

/-!
# Schema files

The entities of a document in their schema form, written to a file of its own with a line end behind
them.
-/

namespace EntityForge.Generation

open Model (Entity)
open Storage (Path Tree)

/-- Makes the directory that a file goes to. -/
def makeParent (storage : Tree) (path : Path) : Tree × Except Failure Unit :=
  match path.properParent? with
  | none => (storage, .ok ())
  | some parent =>
    let (storage', result) := storage.makeDirectories parent
    (storage', storing s!"create {parent.text}" result)

/-- Writes the schema of entities to a file. The storage is returned also where this fails. -/
def writeSchema (storage : Tree) (path : Path) (entities : List Entity) :
    Tree × Except Failure Unit :=
  match makeParent storage path with
  | (storage', .error failure) => (storage', .error failure)
  | (storage', .ok ()) =>
    match storing s!"create {path.text}"
        (storage'.writeText path (Model.schemaText entities ++ "\n")) with
    | .ok storage'' => (storage'', .ok ())
    | .error failure => (storage', .error failure)

end EntityForge.Generation
