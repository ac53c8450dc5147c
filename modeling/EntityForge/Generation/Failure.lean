import EntityForge.Model.Loading
import EntityForge.Storage.Tree
import EntityForge.Template.Error
import EntityForge.Toml.Fault

/-!
# Failures of a generation

A failure has a root and says what was being done when it arose, from the outermost activity to the
innermost one.
-/

namespace EntityForge.Generation

/-- The root of a failure. -/
inductive Root
  /-- The generation itself refuses something. -/
  | refusal (message : String)
  /-- Nothing can be loaded. -/
  | loading (error : Model.LoadError)
  /-- A file or a directory cannot be used. -/
  | storage (cause : Storage.Cause)
  /-- A template fails. -/
  | template (error : Template.Error)
  /-- The settings are faulty. -/
  | settings (fault : Toml.Fault)
  deriving DecidableEq, Repr

/-- Why a generation fails. -/
structure Failure where
  /-- What was being done, the outermost activity first. -/
  activities : List String := []
  /-- The root. -/
  root : Root
  deriving DecidableEq, Repr

/-- The wordings of a root and of what is behind it. -/
def Root.messages : Root → List String
  | refusal message => [message]
  | loading error => error.message :: error.behind
  | storage cause => [cause.message]
  | template error => error.chain
  | settings fault => [fault.message]

namespace Failure

/-- The refusal of something. -/
def refusal (message : String) : Failure := { root := .refusal message }

/-- A failure during an activity. -/
def during (activity : String) (f : Failure) : Failure :=
  { f with activities := activity :: f.activities }

/-- The wordings of a failure, one after another. -/
def messages (f : Failure) : List String :=
  f.activities ++ f.root.messages

/-- The wording of a failure. -/
def message (f : Failure) : String :=
  String.intercalate ": " f.messages

end Failure

/-- A result whose cause of failure becomes a failure during an activity. -/
def storing {α : Type} (activity : String) (result : Except Storage.Cause α) : Except Failure α :=
  result.mapError fun cause => { activities := [activity], root := .storage cause }

end EntityForge.Generation
