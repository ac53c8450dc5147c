import EntityForge.Generation.Settings

/-!
# Requests

What the program can be asked to do: to generate the classes of a document, to show its entities, or
to list the column types it knows.
-/

namespace EntityForge.Command

open Generation (Overrides)
open Storage (Path)

/-- Where entities come from. -/
structure Source where
  /-- The document. -/
  document : Path
  /-- The file of the settings, if it is not the usual one. -/
  settingsFile : Option Path := none
  /-- What takes the place of settings. -/
  overrides : Overrides := {}
  deriving DecidableEq, Repr

/-- A request for the classes of a document. -/
structure Generate where
  /-- Where the entities come from. -/
  source : Source
  /-- Whether nothing is written. -/
  dryRun : Bool := false
  /-- The file that receives the schema. -/
  schemaFile : Option Path := none
  deriving DecidableEq, Repr

/-- A request for the entities of a document. -/
structure Inspect where
  /-- Where the entities come from. -/
  source : Source
  /-- Whether they are shown as JSON. -/
  asJson : Bool := false
  deriving DecidableEq, Repr

/-- A request. -/
inductive Request
  /-- For the classes of a document. -/
  | generate (g : Generate)
  /-- For the entities of a document. -/
  | inspect (i : Inspect)
  /-- For the column types that are known. -/
  | types
  deriving DecidableEq, Repr

end EntityForge.Command
