import EntityForge.Storage.Tree
import EntityForge.Template.Rendering
import EntityForge.Template.Statement

/-!
# Directories of templates

The templates of a directory are its files, with names that are paths from there. No step of such a
name may start with a dot or hold a backslash, so that no template is taken from outside.
-/

namespace EntityForge.Template

open Storage (Path Tree)

/-- The wording for a template that does not exist. -/
def noTemplate (name : String) : Error :=
  .of .templateNotFound s!"template {Text.quoted name} does not exist"

/-- Whether a step of a name stays inside the directory. -/
def isInnerStep (step : String) : Bool :=
  step.toList.head? != some '.' && !step.toList.contains '\\'

/-- The file of a template in a directory, if the name stays inside it. -/
def templatePath? (directory : Path) (name : String) : Option Path :=
  let steps := Storage.pieces name
  if steps.all isInnerStep then some (steps.foldl (fun path step => path.join ⟨step⟩) directory)
  else none

/-- The template of a name in a directory. -/
def loadFrom (storage : Tree) (directory : Path) (name : String) : Except Error Parsed :=
  match templatePath? directory name with
  | none => throw (noTemplate name)
  | some path =>
    match storage.readText path with
    | .ok source => Parsed.ofText name source
    | .error .notFound => throw (noTemplate name)
    | .error cause =>
      throw { Error.invalid "could not read template" with behind := [cause.message] }

end EntityForge.Template
