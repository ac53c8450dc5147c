/-!
# What a command line can hold

A command takes switches, which may stand anywhere on its line, and at most one operand. Switches
have a long name and perhaps a letter; some take a value. Some of the program's switches are
understood by its commands as well.
-/

namespace EntityForge.CommandLine

/-- What a switch does. -/
inductive Action
  /-- It is on or off. -/
  | turn
  /-- It is counted. -/
  | count
  /-- It takes a value. -/
  | take
  /-- It shows the help. -/
  | showHelp
  /-- It shows the version. -/
  | showVersion
  deriving DecidableEq, Repr

/-- The rule for the values of a switch or an operand. -/
inductive ValueRule
  /-- Any text is a value. -/
  | any
  /-- Any text but the empty one is a value. -/
  | nonEmpty
  /-- One of some words is a value. -/
  | oneOf (words : List String)
  /-- The texts that no wording refuses are values. -/
  | notRefused (refusal? : String → Option String)

/-- A switch. -/
structure Switch where
  /-- The long name. -/
  long : String
  /-- The letter. -/
  short : Option Char := none
  /-- What the switch does. -/
  action : Action := .turn
  /-- What stands for the value. -/
  placeholder : String := ""
  /-- The rule for the value. -/
  rule : ValueRule := .any
  /-- The value where none is given, as the help tells it. -/
  standard : Option String := none
  /-- The long name of a switch that this one excludes. -/
  excludes : Option String := none
  /-- What the switch is for. -/
  about : String
  /-- Where the help shows it. -/
  place : Nat := 0

/-- An operand. -/
structure Operand where
  /-- How it is written. -/
  text : String
  /-- What it is for. -/
  about : String
  /-- Whether it must be there. -/
  mandatory : Bool := true
  /-- The rule for its value. -/
  rule : ValueRule := .nonEmpty

/-- A command, or the program itself. -/
structure Spec where
  /-- The name. -/
  name : String
  /-- The words that call it. -/
  call : String
  /-- What it does, in a line. -/
  about : String
  /-- What it does, at length. -/
  longAbout : Option String := none
  /-- The switches: its own, then those that all commands understand. -/
  switches : List Switch
  /-- The operand. -/
  operand : Option Operand := none
  /-- The names of its own commands, with what they do. -/
  commands : List (String × String) := []
  /-- Whether a complaint points to the help. -/
  pointsToHelp : Bool := true

/-- Something on a command line that can be named. -/
inductive Item
  /-- A switch. -/
  | switch (s : Switch)
  /-- An operand. -/
  | operand (o : Operand)

namespace Switch

/-- The words that a value can be, if they are listed. -/
def choices (s : Switch) : List String :=
  match s.rule with
  | .oneOf words => words
  | _ => []

/-- A switch with its value, as it is written. -/
def text (s : Switch) : String :=
  match s.action with
  | .take => s!"--{s.long} <{s.placeholder}>"
  | .count => s!"--{s.long}..."
  | _ => s!"--{s.long}"

/-- The name that puts switches of one place in order: the letter in lower case, a small letter
before the same capital, and the long name where there is no letter. -/
def orderName (s : Switch) : String :=
  match s.short with
  | some letter => String.ofList [letter.toLower, if letter.isUpper then '1' else '0']
  | none => s.long

/-- Whether the help shows a switch no later than another one: by place, then by name. -/
def shownBefore (s t : Switch) : Bool :=
  s.place < t.place || s.place == t.place && !decide (t.orderName < s.orderName)

/-- Switches at successive places. -/
def placedFrom (place : Nat) (switches : List Switch) : List Switch :=
  switches.mapIdx fun i s => { s with place := place + i }

end Switch

namespace Item

/-- An item as it is written. -/
def text : Item → String
  | switch s => s.text
  | operand o => o.text

/-- A switch as it is written. -/
def switchText? : Item → Option String
  | switch s => some s.text
  | operand _ => none

/-- The rule for the value of an item. -/
def rule : Item → ValueRule
  | switch s => s.rule
  | operand o => o.rule

/-- The words that the value of an item can be, if they are listed. -/
def choices : Item → List String
  | switch s => s.choices
  | operand _ => []

/-- The name that tells an item from the others of a command. The operand has none. -/
def key : Item → String
  | switch s => s.long
  | operand _ => ""

end Item

namespace Spec

/-- The switch of a long name. -/
def switch? (s : Spec) (long : String) : Option Switch :=
  s.switches.find? (·.long == long)

/-- The switch of a letter. -/
def letter? (s : Spec) (letter : Char) : Option Switch :=
  s.switches.find? (·.short == some letter)

/-- The long names of the switches. -/
def longNames (s : Spec) : List String :=
  s.switches.map (·.long)

/-- The switches in the order of the help. -/
def shownSwitches (s : Spec) : List Switch :=
  s.switches.mergeSort Switch.shownBefore

/-! ### Usage -/

/-- What stands for a command, where one must follow. -/
def commandTail (s : Spec) : List String :=
  if s.commands.isEmpty then [] else ["<COMMAND>"]

/-- How the operand is written. -/
def operandTail (s : Spec) : List String :=
  (s.operand.map (·.text)).toList

/-- How the switches are written where none is named. -/
def switchesTail (s : Spec) : List String :=
  if s.switches.isEmpty then [] else ["[OPTIONS]"]

/-- How a command is used. Where some items are in use, the switches among them are named. -/
def usage (s : Spec) (used : List Item) : String :=
  let switches := if used.isEmpty then s.switchesTail else used.filterMap Item.switchText?
  "Usage: " ++
    String.intercalate " " (s.call :: switches ++ s.operandTail ++ s.commandTail)

end Spec

end EntityForge.CommandLine
