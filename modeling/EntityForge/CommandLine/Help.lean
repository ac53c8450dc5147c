import EntityForge.CommandLine.Spec

/-!
# Help

The help of a command tells what it does, how it is used, and what its commands, operand and
switches are for. The short help has a line for each of them, the long help a paragraph for each
switch. A command that says nothing at length has the short help only.
-/

namespace EntityForge.CommandLine

/-- A text with blanks behind it up to a width. -/
def padded (width : Nat) (text : String) : String :=
  text ++ String.ofList (List.replicate (width - text.length) ' ')

/-- What the help adds on the values of a switch. -/
def Switch.notes (s : Switch) : List String :=
  (s.standard.map fun value => s!"[default: {value}]").toList ++
    if s.choices.isEmpty then []
    else ["[possible values: " ++ String.intercalate ", " s.choices ++ "]"]

/-- A switch as the help names it. -/
def Switch.label (s : Switch) : String :=
  match s.short with
  | some letter => s!"-{letter}, {s.text}"
  | none => s!"    {s.text}"

/-- The rows of a section: names, and what they are for behind the widest of them. -/
def sectionText (title : String) (rows : List (String × String)) : String :=
  let width := (rows.map fun row => row.1.length).foldl max 0
  let lines := rows.map fun (name, about) => s!"  {padded width name}  {about}"
  String.intercalate "\n" (s!"{title}:" :: lines)

namespace Spec

/-- The sections of the help before the switches. -/
def leadingSections (s : Spec) : List String :=
  (if s.commands.isEmpty then [] else [sectionText "Commands" s.commands]) ++
    (s.operand.map fun o => sectionText "Arguments" [(o.text, o.about)]).toList

/-- What a switch is for. The switch that shows the help also speaks of the other help. -/
def aboutSwitch (s : Spec) (otherHelp : String) (w : Switch) : String :=
  if w.action = .showHelp ∧ s.longAbout.isSome then s!"{w.about} ({otherHelp})" else w.about

/-- The switches in the short help. -/
def shortSwitches (s : Spec) : String :=
  sectionText "Options" <| s.shownSwitches.map fun w =>
    (w.label, String.intercalate " " (s.aboutSwitch "see more with '--help'" w :: w.notes))

/-- A switch in the long help. -/
def longSwitch (s : Spec) (w : Switch) : String :=
  let notes := if w.notes.isEmpty then [] else "" :: w.notes
  String.intercalate "\n          "
    (s!"  {w.label}" :: s.aboutSwitch "see a summary with '-h'" w :: notes)

/-- The switches in the long help. -/
def longSwitches (s : Spec) : String :=
  "Options:\n" ++ String.intercalate "\n\n" (s.shownSwitches.map s.longSwitch)

/-- The help, from what the command does and from its switches. -/
def helpOf (s : Spec) (about switches : String) : String :=
  let sections := s.leadingSections ++ if s.switches.isEmpty then [] else [switches]
  String.intercalate "\n\n" (about :: s.usage [] :: sections) ++ "\n"

/-- The short help. -/
def shortHelp (s : Spec) : String :=
  s.helpOf s.about s.shortSwitches

/-- The long help, or the short one where nothing is said at length. -/
def longHelp (s : Spec) : String :=
  match s.longAbout with
  | some about => s.helpOf about s.longSwitches
  | none => s.shortHelp

end Spec

end EntityForge.CommandLine
