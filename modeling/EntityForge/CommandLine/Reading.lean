import EntityForge.CommandLine.Help
import EntityForge.CommandLine.Refusal
import EntityForge.CommandLine.Similarity

/-!
# Reading a command line

The words of a command line are read from left to right. A switch that takes a value waits for the
next word, unless the value stands behind an equals sign; a value is looked at only when the next
item begins, so that of two faults the one that comes to light first is the one that is told. Two
dashes alone end the switches. The line of a command is read to its end, and what it lacks is told,
before anything that the program itself lacks.
-/

namespace EntityForge.CommandLine

/-- The program with its commands. -/
structure Program where
  /-- The program. -/
  spec : Spec
  /-- Its commands, without the one that shows the help. -/
  commands : List Spec
  /-- The command that shows the help. -/
  help : Spec
  /-- The line that shows the version. -/
  version : String

/-- An item that stands on a command line. -/
structure Given where
  /-- The item. -/
  item : Item
  /-- Its value. -/
  value : String := ""
  /-- How often it stands there. -/
  times : Nat := 1

/-- Why nothing is carried out. -/
inductive Halt
  /-- Something was asked to be shown. -/
  | shown (text : String)
  /-- Nothing was asked for, so the help is shown. -/
  | lacking (text : String)
  /-- The command line is refused. -/
  | refused (r : Refusal)

/-- How far the reading of the line of a command has come. -/
structure Reading where
  /-- The items whose values have been looked at, in order. -/
  given : List Given := []
  /-- The item whose value has not been looked at, with its value unless it waits for it. -/
  pending : Option (Item × Option String) := none
  /-- Whether the switches have ended. -/
  trailing : Bool := false
  /-- Whether the operand has been met. -/
  operandMet : Bool := false

/-- The refusal of a command line. -/
def refuse {α : Type} (complaint : Complaint) (hints : List Hint) (usage : Option String) :
    Except Halt α :=
  .error (.refused { complaint, hints, usage })

/-! ### Values -/

/-- Looks at the value of an item. -/
def Item.check (item : Item) (value : String) : Except Halt Unit :=
  match item.rule with
  | .any => .ok ()
  | .nonEmpty => if value = "" then refuse (.missingValue item) [] none else .ok ()
  | .oneOf words =>
    if words.contains value then .ok ()
    else if value = "" then refuse (.missingValue item) [] none
    else
      refuse (.impossibleValue value item) ((mostSimilar? value words).map Hint.value).toList none
  | .notRefused refusal? =>
    match refusal? value with
    | none => .ok ()
    | some reason => refuse (.refusedValue value item reason) [] none

namespace Reading

/-- What stands on the line for an item. -/
def find? (r : Reading) (key : String) : Option Given :=
  r.given.find? (·.item.key == key)

/-- The reading without an item. -/
def drop (r : Reading) (key : String) : Reading :=
  { r with given := r.given.filter (·.item.key != key) }

/-- The reading with one more item. -/
def add (r : Reading) (g : Given) : Reading :=
  { r with given := r.given ++ [g] }

/-- The items in use. -/
def used (r : Reading) : List Item :=
  r.given.map (·.item)

/-- Whether an item waits for its value. -/
def isWaiting (r : Reading) : Bool :=
  r.pending.any (·.2.isNone)

/-- Adds an item that stands on the line at most once. -/
def addOnce (spec : Spec) (r : Reading) (item : Item) (value : String := "") :
    Except Halt Reading :=
  if (r.find? item.key).isSome then refuse (.repeated item) [] (spec.usage [])
  else do
    item.check value
    return r.add { item, value }

/-- Looks at the value that has not been looked at. -/
def settle (spec : Spec) (r : Reading) : Except Halt Reading :=
  match r.pending with
  | none => .ok r
  | some (item, none) => refuse (.missingValue item) [] none
  | some (item, some value) => addOnce spec { r with pending := none } item value

/-- The reading after the pending item, for a usage that is told whatever its value is. -/
def settleAnyway (r : Reading) : Reading :=
  match r.pending with
  | some (item, some _) =>
    if (r.find? item.key).isSome then r.drop item.key else r.add { item }
  | _ => r

end Reading

/-- Some items with one more, if it is not among them. -/
def withItem (items : List Item) (item : Item) : List Item :=
  if items.any (·.key == item.key) then items else items ++ [item]

/-! ### Switches -/

/-- The switch of a command whose long name is similar to one that is not known, with the name of
the command. Of several commands the one that stands first on the rest of the line counts. -/
def elsewhere? (commands : List Spec) (long : String) (rest : List String) :
    Option (String × String) :=
  rest.findSome? fun word =>
    (commands.find? (·.name == word)).bind fun c =>
      (mostSimilar? long c.longNames).map fun found => (word, found)

/-- The hint that something that looks like a switch can be a value. -/
def valueHints (spec : Spec) (arg : String) : List Hint :=
  if spec.operand.isSome then [.asValue arg] else []

/-- Refuses a long name that is not known. -/
def refuseLong (spec : Spec) (commands : List Spec) (r : Reading) (long : String)
    (rest : List String) : Except Halt Reading :=
  let used := r.settleAnyway.used
  let complaint := Complaint.unexpected s!"--{long}"
  match (mostSimilar? long spec.longNames).bind spec.switch? with
  | some s => refuse complaint [.switch s.long] (spec.usage (withItem used (.switch s)))
  | none =>
    let hints :=
      match elsewhere? commands long rest with
      | some (command, found) => [.elsewhere command found]
      | none => valueHints spec s!"--{long}"
    refuse complaint hints (spec.usage used)

/-- Reads a switch that has no value behind an equals sign. -/
def readBare (program : Program) (spec : Spec) (r : Reading) (s : Switch) (long : Bool) :
    Except Halt Reading := do
  let r ← r.settle spec
  match s.action with
  | .turn => r.addOnce spec (.switch s)
  | .count =>
    let times := (r.find? s.long).elim 0 (·.times)
    return (r.drop s.long).add { item := .switch s, times := times + 1 }
  | .take => return { r with pending := some (.switch s, none) }
  | .showHelp => throw (.shown (if long then spec.longHelp else spec.shortHelp))
  | .showVersion => throw (.shown program.version)

/-- Reads a switch with a value behind an equals sign. -/
def readAttached (spec : Spec) (r : Reading) (s : Switch) (value : String) :
    Except Halt Reading := do
  match s.action with
  | .take => (← r.settle spec).addOnce spec (.switch s) value
  | _ =>
    refuse (.unneededValue value (.switch s)) [] (spec.usage (withItem r.used (.switch s)))

/-- Reads a word behind two dashes. -/
def readLong (program : Program) (spec : Spec) (commands : List Spec) (r : Reading)
    (body : List Char) (rest : List String) : Except Halt Reading :=
  let long := String.ofList (body.takeWhile (· != '='))
  match spec.switch? long, body.dropWhile (· != '=') with
  | none, _ => refuseLong spec commands r long rest
  | some s, [] => readBare program spec r s true
  | some s, _ :: value => readAttached spec r s (String.ofList value)

/-- Reads letters behind a dash. -/
def readLetters (program : Program) (spec : Spec) (r : Reading) :
    List Char → Except Halt Reading
  | [] => return r
  | c :: rest =>
    match spec.letter? c with
    | some s => do readLetters program spec (← readBare program spec r s false) rest
    | none =>
      let arg := s!"-{c}"
      refuse (.unexpected arg) (valueHints spec arg) (spec.usage [])

/-! ### Other words -/

/-- Refuses a word that nothing is expected for. -/
def refuseWord (spec : Spec) (r : Reading) (word : String) : Except Halt Reading :=
  let usage := spec.usage []
  let names := spec.commands.map (·.1)
  if names.isEmpty then refuse (.unexpected word) [] usage
  else if r.trailing && names.contains word then
    refuse (.unexpected word) [.asCommand word] usage
  else
    let similar := similarWords word names
    refuse (.unknownCommand word) (if similar.isEmpty then [] else [.commands similar]) usage

/-- Reads a word as the operand. -/
def readOperand (spec : Spec) (r : Reading) (word : String) : Except Halt Reading :=
  match spec.operand with
  | some o =>
    if r.operandMet then refuseWord spec r word
    else do
      let r ← r.settle spec
      return { r with pending := some (.operand o, some word), operandMet := true }
  | none => refuseWord spec r word

/-- Reads a word that does not name a command. -/
def readWord (program : Program) (spec : Spec) (commands : List Spec) (r : Reading) (word : String)
    (rest : List String) : Except Halt Reading :=
  if r.trailing then readOperand spec r word
  else
    match word.toList, r.pending with
    | ['-', '-'], _ => return { r with trailing := true }
    | '-' :: '-' :: body, _ => readLong program spec commands r body rest
    | '-' :: c :: body, _ => readLetters program spec r (c :: body)
    | _, some (item, none) => return { r with pending := some (item, some word) }
    | _, _ => readOperand spec r word

/-! ### Lines -/

/-- Shows the help of the command that words name. -/
def readHelp (program : Program) (spec : Spec) (commands : List Spec) :
    List String → Except Halt Unit
  | [] => .error (.shown spec.longHelp)
  | word :: rest =>
    match commands.find? (·.name == word) with
    | some c => readHelp program c [] rest
    | none =>
      .error (.refused
        { complaint := .unknownCommand word
          usage := spec.usage []
          pointsToHelp := spec.pointsToHelp })

/-- What is read of the program's own line: everything up to the command, the command, and the words
behind it. -/
def readProgram (program : Program) (r : Reading) :
    List String → Except Halt (Reading × Option (Spec × List String))
  | [] => return (r, none)
  | word :: rest =>
    if r.trailing || r.isWaiting then do
      readProgram program (← readWord program program.spec program.commands r word rest) rest
    else if word == program.help.name then do
      readHelp program program.spec (program.commands ++ [program.help]) rest
      return (r, none)
    else
      match program.commands.find? (·.name == word) with
      | some c => return (r, some (c, rest))
      | none => do
        readProgram program (← readWord program program.spec program.commands r word rest) rest

/-- What is read of the line of a command. -/
def readCommand (program : Program) (spec : Spec) (r : Reading) :
    List String → Except Halt Reading
  | [] => return r
  | word :: rest => do
    readCommand program spec (← readWord program spec [] r word rest) rest

/-- Whether one of two items excludes the other. -/
def excludes (a b : Item) : Bool :=
  match a, b with
  | .switch s, .switch t => s.excludes == some t.long || t.excludes == some s.long
  | _, _ => false

/-- Tells the first item that excludes another. -/
def checkConflicts (spec : Spec) (r : Reading) : Except Halt Unit :=
  let conflict := r.used.findSome? fun a => (r.used.find? (excludes a)).map fun b => (a, b)
  match conflict with
  | some (a, b) =>
    refuse (.conflict a b) [] (spec.usage (r.used.filter (·.key != b.key)))
  | none => .ok ()

/-- Tells an operand that is missing. -/
def checkOperand (spec : Spec) (r : Reading) : Except Halt Unit :=
  match spec.operand with
  | some o =>
    if o.mandatory && (r.find? "").isNone then
      refuse (.missingOperand o) [] (spec.usage (withItem r.used (.operand o)))
    else .ok ()
  | none => .ok ()

/-- Finishes the line of a command. -/
def finish (spec : Spec) (r : Reading) : Except Halt Reading := do
  let r ← r.settle spec
  checkConflicts spec r
  checkOperand spec r
  return r

/-- Tells that the command is missing. -/
def lackCommand (spec : Spec) (r : Reading) : Except Halt Unit := do
  let r ← r.settle spec
  if r.given.isEmpty then throw (.lacking spec.shortHelp)
  else
    refuse (.missingCommand spec.call (spec.commands.map (·.1))) [] (spec.usage [])

/-- The command that a line names, with the items on the line of the command and on that of the
program. -/
def Program.read (program : Program) (words : List String) :
    Except Halt (Spec × Reading × Reading) := do
  match ← readProgram program {} words with
  | (r, none) =>
    lackCommand program.spec r
    throw (.lacking program.spec.shortHelp)
  | (r, some (spec, rest)) =>
    let inner ← finish spec (← readCommand program spec {} rest)
    return (spec, ← finish program.spec r, inner)

end EntityForge.CommandLine
