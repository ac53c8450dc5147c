import EntityForge.CommandLine.Reading
import EntityForge.Java.Style
import EntityForge.Journal.Record

/-!
# The command line of the program

The switches and operands of the program and of its commands.
-/

namespace EntityForge.CommandLine

/-! ### Switches that all commands understand -/

/-- Counts how much more the journal tells. -/
def verboseSwitch : Switch where
  long := "verbose"
  short := some 'v'
  action := .count
  about := "Increase logging verbosity"

/-- Counts how much less the journal tells. -/
def quietSwitch : Switch where
  long := "quiet"
  short := some 'q'
  action := .count
  excludes := some "verbose"
  about := "Decrease logging verbosity"

/-- Says when there are colours. -/
def colorSwitch : Switch where
  long := "color"
  action := .take
  placeholder := "WHEN"
  rule := .oneOf ["auto", "always", "never"]
  standard := some "auto"
  about := "Controls when to use color"

/-- Sets the threshold of the journal. -/
def levelSwitch : Switch where
  long := "log-level"
  action := .take
  placeholder := "LOG_LEVEL"
  rule := .oneOf (Journal.Level.all.map (·.name))
  about := "Explicit log level (overrides -v/-q flags)"

/-- Sets the form of the journal. -/
def formSwitch : Switch where
  long := "log-format"
  action := .take
  placeholder := "LOG_FORMAT"
  rule := .oneOf ["pretty", "compact", "json"]
  standard := some "pretty"
  about := "Log output format"

/-- Names the file of the journal. -/
def journalSwitch : Switch where
  long := "log-file"
  action := .take
  placeholder := "PATH"
  rule := .nonEmpty
  about := "Write logs to a file instead of stderr"

/-- The place of the switches that every help ends with. -/
def lastPlace : Nat := 999

/-- Shows the help. -/
def helpSwitch : Switch where
  long := "help"
  short := some 'h'
  action := .showHelp
  about := "Print help"
  place := lastPlace

/-- Shows the version. -/
def versionSwitch : Switch where
  long := "version"
  short := some 'V'
  action := .showVersion
  about := "Print version"
  place := lastPlace

/-- The switches that the program shares with its commands. Their places are counted in the program,
behind its three commands. -/
def sharedSwitches : List Switch :=
  Switch.placedFrom 3
    [verboseSwitch, quietSwitch, colorSwitch, levelSwitch, formSwitch, journalSwitch]

/-! ### Switches of commands -/

/-- A switch that takes a path. -/
def pathSwitch (long placeholder about : String) : Switch where
  long := long
  action := .take
  placeholder := placeholder
  rule := .nonEmpty
  about := about

/-- A switch that takes any text. -/
def textSwitch (long placeholder about : String) : Switch where
  long := long
  action := .take
  placeholder := placeholder
  about := about

/-- A switch that is on or off. -/
def plainSwitch (long about : String) : Switch where
  long := long
  about := about

/-- Names the settings file. -/
def configSwitch : Switch :=
  pathSwitch "config" "PATH" "Settings file (default: ./pdm-codegen.toml when present)"

/-- Sets the prefix of tables. -/
def prefixSwitch : Switch :=
  textSwitch "prefix" "PREFIX" "Table name prefix, e.g. `t_`"

/-- Sets the package. -/
def packageSwitch : Switch :=
  textSwitch "package" "PACKAGE" "Java package of the generated classes"

/-- The wording for a text that names no style. -/
def styleRefusal? (text : String) : Option String :=
  if (Java.Style.ofText? text).isSome then none else some (Java.Style.unknownMessage text)

/-- Sets the style. -/
def templateSwitch : Switch where
  long := "template"
  action := .take
  placeholder := "NAME"
  rule := .notRefused styleRefusal?
  excludes := some "template-file"
  about := "Built-in entity template (pojo, lombok, jpa)"

/-- Names the template file. -/
def templateFileSwitch : Switch :=
  pathSwitch "template-file" "PATH" "Template file rendered instead of a built-in template"

/-- Sets the root of the source tree. -/
def sourceRootSwitch : Switch :=
  pathSwitch "source-root" "DIR" "Source tree root inside the output directory"

/-- Sets the output directory. -/
def outputDirSwitch : Switch :=
  pathSwitch "output-dir" "DIR" "Project directory that receives the source tree"

/-- Lets classes be replaced. -/
def overwriteSwitch : Switch :=
  plainSwitch "overwrite" "Replace existing source files"

/-- Lets nothing be written. -/
def dryRunSwitch : Switch :=
  plainSwitch "dry-run" "Extract and report without writing any file"

/-- Names the file of the schema. -/
def schemaSwitch : Switch :=
  pathSwitch "schema-json" "PATH" "Also write the extracted model as JSON"

/-- Shows entities as JSON. -/
def jsonSwitch : Switch :=
  plainSwitch "json" "Print the extracted model as JSON"

/-- The document. -/
def documentOperand : Operand where
  text := "<PDM_FILE>"
  about := "PowerDesigner physical data model file"

/-! ### Commands -/

/-- The words that call the program. -/
def programName : String := "pdm-codegen"

/-- The command that generates classes. -/
def generateSpec : Spec where
  name := "generate"
  call := programName ++ " generate"
  about := "Extract entities from a PDM file and write Java sources"
  switches :=
    Switch.placedFrom 0
      [configSwitch, prefixSwitch, packageSwitch, templateSwitch, templateFileSwitch,
        sourceRootSwitch, outputDirSwitch, overwriteSwitch, dryRunSwitch, schemaSwitch] ++
      sharedSwitches ++ [helpSwitch]
  operand := some documentOperand

/-- The command that shows entities. -/
def inspectSpec : Spec where
  name := "inspect"
  call := programName ++ " inspect"
  about := "Show the entities and fields extracted from a PDM file"
  switches :=
    Switch.placedFrom 0 [configSwitch, prefixSwitch, jsonSwitch] ++ sharedSwitches ++ [helpSwitch]
  operand := some documentOperand

/-- The command that lists column types. -/
def typesSpec : Spec where
  name := "types"
  call := programName ++ " types"
  about := "List the supported column types and their Java types"
  switches := sharedSwitches ++ [helpSwitch]

/-- The command that shows the help. -/
def helpSpec : Spec where
  name := "help"
  call := programName ++ " help"
  about := "Print this message or the help of the given subcommand(s)"
  switches := []
  operand := some
    { text := "[COMMAND]...", about := "Print help for the subcommand(s)", mandatory := false }
  pointsToHelp := false

/-- What the program does, at length. -/
def programAbout : String :=
  "Read the tables of a PowerDesigner physical data model (.pdm) and\n" ++
    "generate one Java entity class per table.\n\n" ++
    "Settings are read from pdm-codegen.toml when present and can be\n" ++
    "overridden on the command line."

/-- The program. -/
def entityProgram : Program where
  spec :=
    { name := programName
      call := programName
      about := "Generate Java entity classes from PowerDesigner PDM files"
      longAbout := some programAbout
      switches := sharedSwitches ++ [helpSwitch, versionSwitch]
      commands :=
        [generateSpec, inspectSpec, typesSpec, helpSpec].map fun s => (s.name, s.about) }
  commands := [generateSpec, inspectSpec, typesSpec]
  help := helpSpec
  version := programName ++ " 0.1.0\n"

end EntityForge.CommandLine
