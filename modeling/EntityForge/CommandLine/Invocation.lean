import EntityForge.Command.Request
import EntityForge.CommandLine.Program
import EntityForge.Journal.Filter
import EntityForge.Journal.Line

/-!
# Invocations

A command line comes to a request and to the way its journal is kept. A switch on the line of the
command takes the place of the same switch on the line of the program.
-/

namespace EntityForge.CommandLine

open Command (Generate Inspect Request Source)
open Generation (Overrides)
open Journal (Filter Form Level Threshold)
open Storage (Path)

/-- How a journal is kept. -/
structure Keeping where
  /-- How often more is asked for. -/
  verbose : Nat := 0
  /-- How often less is asked for. -/
  quiet : Nat := 0
  /-- The level that is asked for. -/
  level : Option Level := none
  /-- The form of the lines. -/
  form : Form := .pretty
  /-- The file that the lines go to. -/
  file : Option Path := none
  /-- Whether the lines are coloured. -/
  coloured : Bool := false
  deriving DecidableEq, Repr

namespace Keeping

/-- The threshold that is asked for. -/
def threshold (k : Keeping) : Threshold :=
  match k.level with
  | some level => some level
  | none => .ofRank (Threshold.rank (some .warn) + k.verbose - k.quiet)

/-- Whether the command line asks for a threshold. -/
def asks (k : Keeping) : Bool :=
  k.level.isSome || k.verbose != 0 || k.quiet != 0

/-- The filter of the journal. A filter from elsewhere counts if the command line asks for nothing
and the filter can be read. -/
def filter (k : Keeping) (elsewhere : Option String) : Filter :=
  if k.asks then .own k.threshold
  else (elsewhere.bind Filter.ofText?).getD (.own k.threshold)

end Keeping

/-- What a command line comes to. -/
structure Invocation where
  /-- How the journal is kept. -/
  keeping : Keeping
  /-- The request. -/
  request : Request
  deriving DecidableEq, Repr

/-! ### Items of a line -/

namespace Reading

/-- The value of an item. -/
def value? (r : Reading) (key : String) : Option String :=
  (r.find? key).map (·.value)

/-- The value of an item that is a path. -/
def path? (r : Reading) (key : String) : Option Path :=
  (r.value? key).map Storage.Path.mk

/-- Whether a switch is on. -/
def isOn (r : Reading) (key : String) : Bool :=
  (r.find? key).isSome

/-- How often a switch stands there. -/
def times (r : Reading) (key : String) : Nat :=
  (r.find? key).elim 0 (·.times)

/-- The items of the line of a command before those of the line of the program. -/
def above (inner outer : Reading) : Reading :=
  { given := inner.given ++ outer.given }

/-- How the journal is kept. -/
def keeping (r : Reading) : Keeping where
  verbose := r.times "verbose"
  quiet := r.times "quiet"
  level := (r.value? "log-level").bind fun name => Level.all.find? (·.name == name)
  form := ((r.value? "log-format").bind Form.ofName?).getD .pretty
  file := r.path? "log-file"
  coloured := r.value? "color" == some "always"

/-- What takes the place of settings. -/
def overrides (r : Reading) : Overrides where
  tablePrefix := r.value? "prefix"
  package := r.value? "package"
  style := (r.value? "template").bind Java.Style.ofText?
  templateFile := r.path? "template-file"
  sourceRoot := r.path? "source-root"
  outputDir := r.path? "output-dir"
  overwrite := r.isOn "overwrite"

/-- Where entities come from. -/
def source (r : Reading) : Source where
  document := (r.path? "").getD ⟨""⟩
  settingsFile := r.path? "config"
  overrides := r.overrides

/-- The request for a command. -/
def request (r : Reading) (command : String) : Request :=
  if command = generateSpec.name then
    .generate
      { source := r.source, dryRun := r.isOn "dry-run", schemaFile := r.path? "schema-json" }
  else if command = inspectSpec.name then
    .inspect { source := r.source, asJson := r.isOn "json" }
  else .types

end Reading

/-- What a command line comes to. -/
def readInvocation (words : List String) : Except Halt Invocation := do
  let (spec, outer, inner) ← entityProgram.read words
  let all := inner.above outer
  return { keeping := all.keeping, request := all.request spec.name }

end EntityForge.CommandLine
