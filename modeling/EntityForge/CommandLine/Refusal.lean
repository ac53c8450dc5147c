import EntityForge.CommandLine.Spec

/-!
# Refusals

A command line that cannot be understood is refused: the complaint says why, hints may say what was
meant, and the usage of the command follows where it helps.
-/

namespace EntityForge.CommandLine

/-- What is wrong with a command line. -/
inductive Complaint
  /-- Something was not expected. -/
  | unexpected (arg : String)
  /-- No command has such a name. -/
  | unknownCommand (name : String)
  /-- A command is missing. -/
  | missingCommand (program : String) (names : List String)
  /-- Operands are missing. -/
  | missingOperand (o : Operand)
  /-- An item has no value, or an empty one where that is none. -/
  | missingValue (item : Item)
  /-- A switch has a value though it takes none. -/
  | unneededValue (value : String) (item : Item)
  /-- A value is not one of those that are possible. -/
  | impossibleValue (value : String) (item : Item)
  /-- A value is refused, with the wording for it. -/
  | refusedValue (value : String) (item : Item) (reason : String)
  /-- A switch stands there twice. -/
  | repeated (item : Item)
  /-- A switch excludes another. -/
  | conflict (item other : Item)

/-- What may have been meant. -/
inductive Hint
  /-- Commands whose names are similar. -/
  | commands (names : List String)
  /-- A switch whose name is similar. -/
  | switch (long : String)
  /-- A value that is similar. -/
  | value (word : String)
  /-- A switch of another command. -/
  | elsewhere (command long : String)
  /-- The argument as a value. -/
  | asValue (arg : String)
  /-- The argument as a command. -/
  | asCommand (arg : String)
  deriving DecidableEq, Repr

/-- Why a command line is refused. -/
structure Refusal where
  /-- What is wrong. -/
  complaint : Complaint
  /-- What may have been meant. -/
  hints : List Hint := []
  /-- How the command is used. -/
  usage : Option String := none
  /-- Whether the help is pointed to. -/
  pointsToHelp : Bool := true

/-- Words between quotes, with commas between them. -/
def quotedWords (words : List String) : String :=
  String.intercalate ", " (words.map fun w => s!"'{w}'")

/-- A list of words under a title, on a line of its own; nothing, if there are none. -/
def wordList (title : String) (words : List String) : String :=
  if words.isEmpty then "" else s!"\n  [{title}: " ++ String.intercalate ", " words ++ "]"

/-- The wording of a complaint. -/
def Complaint.message : Complaint → String
  | unexpected arg => s!"unexpected argument '{arg}' found"
  | unknownCommand name => s!"unrecognized subcommand '{name}'"
  | missingCommand program names =>
    s!"'{program}' requires a subcommand but one was not provided" ++ wordList "subcommands" names
  | missingOperand o => s!"the following required arguments were not provided:\n  {o.text}"
  | missingValue item =>
    s!"a value is required for '{item.text}' but none was supplied" ++
      wordList "possible values" item.choices
  | unneededValue value item =>
    s!"unexpected value '{value}' for '{item.text}' found; no more were expected"
  | impossibleValue value item =>
    s!"invalid value '{value}' for '{item.text}'" ++ wordList "possible values" item.choices
  | refusedValue value item reason => s!"invalid value '{value}' for '{item.text}': {reason}"
  | repeated item => s!"the argument '{item.text}' cannot be used multiple times"
  | conflict item other => s!"the argument '{item.text}' cannot be used with '{other.text}'"

/-- The wording of a hint. -/
def Hint.message : Hint → String
  | commands [name] => s!"a similar subcommand exists: '{name}'"
  | commands names => "some similar subcommands exist: " ++ quotedWords names
  | switch long => s!"a similar argument exists: '--{long}'"
  | value word => s!"a similar value exists: '{word}'"
  | elsewhere command long => s!"'{command} --{long}' exists"
  | asValue arg => s!"to pass '{arg}' as a value, use '-- {arg}'"
  | asCommand arg => s!"subcommand '{arg}' exists; to use it, remove the '--' before it"

/-- The text of a refusal. -/
def Refusal.text (r : Refusal) : String :=
  let hints := r.hints.map fun h => s!"\n  tip: {h.message}"
  let help := if r.pointsToHelp then ["For more information, try '--help'."] else []
  let parts := (r.complaint.message ++ (if hints.isEmpty then "" else "\n" ++ String.join hints)) ::
    (r.usage.toList ++ help)
  "error: " ++ String.intercalate "\n\n" parts ++ "\n"

end EntityForge.CommandLine
