import EntityForge.Java.Identifier
import EntityForge.Java.Style
import EntityForge.Storage.Path

/-!
# Options of a generation

Where the classes go and how they are written. A class goes to the directory of its package, below
the source root, below the output directory.
-/

namespace EntityForge.Generation

open Storage (Path)

/-- The options of a generation. -/
structure Options where
  /-- The package of the classes; the empty one is the default package. -/
  package : String := ""
  /-- The root of the source tree, from the output directory. -/
  sourceRoot : Path := ⟨"src/main/java"⟩
  /-- The directory that receives the source tree. -/
  outputDir : Path := ⟨"."⟩
  /-- The style of the classes. -/
  style : Java.Style := .pojo
  /-- The template file that takes the place of the style. -/
  templateFile : Option Path := none
  /-- Whether classes that exist are replaced. -/
  overwrite : Bool := false
  deriving DecidableEq, Repr

/-- The directory of a package, one step for each segment. -/
def packagePath (package : String) : Path :=
  ((Java.segments package).filter (· != "")).foldl (fun path s => path.join ⟨s⟩) ⟨""⟩

namespace Options

/-- The template file, or the name of the style. -/
def templateLabel (o : Options) : String :=
  match o.templateFile with
  | some path => path.text
  | none => o.style.name

/-- The directory of the classes. -/
def packageDir (o : Options) : Path :=
  (o.outputDir.join o.sourceRoot).join (packagePath o.package)

/-- The file of the class of a name. -/
def classPath (o : Options) (className : String) : Path :=
  o.packageDir.join ⟨className ++ ".java"⟩

end Options

/-- The wording for a package with a segment that is no identifier. -/
def invalidPackageMessage (package segment : String) : String :=
  s!"invalid package name '{package}': segment '{segment}' is not a Java identifier"

end EntityForge.Generation
