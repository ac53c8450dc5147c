import EntityForge.Generation.Options
import EntityForge.Generation.Failure
import EntityForge.Model.Naming
import EntityForge.Toml.Reader

/-!
# Settings

The settings of a generation are kept in a TOML file, with a value of its own for each that is
missing. The command line can override them.
-/

namespace EntityForge.Generation

open Storage (Path Tree)
open Toml (Complaint Fault Members Span)

/-- The settings of a generation. -/
structure Settings where
  /-- The name part that stands before the names of tables. -/
  tablePrefix : String := ""
  /-- The package of the classes. -/
  package : String := "com.example.entity"
  /-- The style of the classes. -/
  style : Java.Style := .pojo
  /-- The template file that takes the place of the style. -/
  templateFile : Option Path := none
  /-- The root of the source tree, from the output directory. -/
  sourceRoot : Path := ⟨"src/main/java"⟩
  /-- The directory that receives the source tree. -/
  outputDir : Path := ⟨"."⟩
  /-- Whether classes that exist are replaced. -/
  overwrite : Bool := false
  deriving DecidableEq, Repr

namespace Settings

/-- The rule for the names of classes under settings. -/
def naming (s : Settings) : Model.Naming := ⟨s.tablePrefix⟩

/-- The options of a generation under settings. -/
def options (s : Settings) : Options where
  package := s.package
  sourceRoot := s.sourceRoot
  outputDir := s.outputDir
  style := s.style
  templateFile := s.templateFile
  overwrite := s.overwrite

/-! ### Writing -/

/-- The members of the file, with their values as they are written. -/
def members (s : Settings) : List (String × String) :=
  [("table_prefix", Toml.quoted s.tablePrefix),
    ("package", Toml.quoted s.package),
    ("template", Toml.quoted s.style.name)] ++
  (s.templateFile.map fun path => ("template_file", Toml.quoted path.text)).toList ++
  [("source_root", Toml.quoted s.sourceRoot.text),
    ("output_dir", Toml.quoted s.outputDir.text),
    ("overwrite", if s.overwrite then "true" else "false")]

/-- The text of the file. -/
def text (s : Settings) : String :=
  String.join (s.members.map fun (name, v) => s!"{name} = {v}\n")

/-! ### Reading -/

/-- The names of the members. -/
def names : List String :=
  ["table_prefix", "package", "template", "template_file", "source_root", "output_dir",
    "overwrite"]

/-- The names of the styles. -/
def styleNames : List String := Java.Style.all.map (·.name)

/-- A value that is a text. -/
def asText (expected : String) : Toml.Value → Except Complaint String
  | .string s => return s
  | v => throw (v.unexpected expected)

/-- A value that is a path. -/
def asPath (v : Toml.Value) : Except Complaint Path :=
  Storage.Path.mk <$> asText "path string" v

/-- A value that is a truth value. -/
def asTruth : Toml.Value → Except Complaint Bool
  | .boolean b => return b
  | v => throw (v.unexpected "a boolean")

/-- The style of a name. -/
def styleOf (name : String) : Except Complaint Java.Style :=
  match Java.Style.all.find? (·.name == name) with
  | some s => return s
  | none => throw (.unknownVariant name styleNames)

/-- A value that says nothing more about a style. -/
def asNothing : Toml.Value → Except Complaint Unit
  | .table _ [] | .array [] => return ()
  | .table _ _ => throw (.malformed "expected empty table")
  | .array _ => throw (.malformed "expected empty array")
  | .tables _ => throw (.malformed "expected empty array")
  | .string _ => throw (.malformed "expected table, found string")
  | .integer _ => throw (.malformed "expected table, found integer")
  | .float _ | .excess => throw (.malformed "expected table, found float")
  | .boolean _ => throw (.malformed "expected table, found boolean")
  | .dateTime => throw (.malformed "expected table, found datetime")

/-- A value that is a style: a name, or a table with the name as its only member. -/
def asStyle (span : Span) : Toml.Value → Except (Span × Complaint) Java.Style
  | .string name => (styleOf name).mapError (span, ·)
  | .table _ [((keySpan, name), (valueSpan, v))] => do
    let s ← (styleOf name).mapError (keySpan, ·)
    (asNothing v).mapError (valueSpan, ·)
    return s
  | .table _ [] => throw (span, .malformed "wanted exactly 1 element, found 0 elements")
  | .table _ _ => throw (span, .malformed "wanted exactly 1 element, more than 1 element")
  | _ => throw (span, .malformed "wanted string or table")

/-- The settings with a member read from a value. -/
def withMember (s : Settings) (name : String) (span : Span) (v : Toml.Value) :
    Except (Span × Complaint) Settings :=
  let placed {α : Type} (result : Except Complaint α) : Except (Span × Complaint) α :=
    result.mapError (span, ·)
  match name with
  | "table_prefix" => do return { s with tablePrefix := ← placed (asText "a string" v) }
  | "package" => do return { s with package := ← placed (asText "a string" v) }
  | "template" => do return { s with style := ← asStyle span v }
  | "template_file" => do return { s with templateFile := some (← placed (asPath v)) }
  | "source_root" => do return { s with sourceRoot := ← placed (asPath v) }
  | "output_dir" => do return { s with outputDir := ← placed (asPath v) }
  | "overwrite" => do return { s with overwrite := ← placed (asTruth v) }
  | _ => return s

/-- The settings with members read in order. -/
def withMembers (s : Settings) : Members → Except (Span × Complaint) Settings
  | [] => return s
  | ((keySpan, name), (span, v)) :: rest => do
    if !names.contains name then throw (keySpan, .unknownField name names)
    (← s.withMember name span v).withMembers rest

/-- The settings in the text of a file. Members are read in the order of their names. -/
def ofText (text : String) : Except Failure Settings :=
  let activities := ["parse generator config"]
  match Toml.read text with
  | .error fault => throw { activities, root := .settings fault }
  | .ok members =>
    match withMembers {} (members.mergeSort fun a b => a.1.2 ≤ b.1.2) with
    | .ok s => return s
    | .error (span, complaint) =>
      throw { activities, root := .settings { complaint, span := some span, source := text } }

/-- The file that settings are read from if no other one is named. -/
def defaultFile : Path := ⟨"pdm-codegen.toml"⟩

/-- The settings in a file. Only the default file may be missing. -/
def load (storage : Tree) (path : Option Path) : Except Failure Settings :=
  let file := path.getD defaultFile
  if path.isNone && !storage.isFile file then return {}
  else do
    let text ← storing s!"read config {file.text}" (storage.readText file)
    (ofText text).mapError (·.during s!"load config {file.text}")

end Settings

/-! ### Overriding -/

/-- Settings that take the place of others. -/
structure Overrides where
  /-- The name part before the names of tables. -/
  tablePrefix : Option String := none
  /-- The package. -/
  package : Option String := none
  /-- The style. -/
  style : Option Java.Style := none
  /-- The template file. -/
  templateFile : Option Path := none
  /-- The root of the source tree. -/
  sourceRoot : Option Path := none
  /-- The output directory. -/
  outputDir : Option Path := none
  /-- Whether classes are replaced even if the settings say they are not. -/
  overwrite : Bool := false
  deriving DecidableEq, Repr

/-- The settings with others in their place. A style takes the place of a template file. -/
def Settings.override (s : Settings) (o : Overrides) : Settings where
  tablePrefix := o.tablePrefix.getD s.tablePrefix
  package := o.package.getD s.package
  style := o.style.getD s.style
  templateFile := o.templateFile.or (if o.style.isSome then none else s.templateFile)
  sourceRoot := o.sourceRoot.getD s.sourceRoot
  outputDir := o.outputDir.getD s.outputDir
  overwrite := s.overwrite || o.overwrite

end EntityForge.Generation
