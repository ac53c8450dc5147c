import EntityForge.Journal.Record
import EntityForge.Json.Printer
import EntityForge.Text.Quoted

/-!
# Lines of a journal

A record is written on one line: with the details of each span beside its name, with the details of
all spans behind those of the record, or as a JSON object. The first two can be coloured.
-/

namespace EntityForge.Journal

/-- The form of a line. -/
inductive Form
  /-- The details of a span stand beside its name. -/
  | pretty
  /-- The details of all spans stand at the end. -/
  | compact
  /-- The line is a JSON object. -/
  | json
  deriving DecidableEq, Repr

/-- The form of a name. -/
def Form.ofName? : String → Option Form
  | "pretty" => some pretty
  | "compact" => some compact
  | "json" => some json
  | _ => none

/-- What a clock shows while a record is written. -/
structure Clock where
  /-- The present time. -/
  now : String
  /-- The milliseconds since the command started. -/
  elapsed : String
  deriving DecidableEq, Repr

/-- How lines are written. -/
structure Hand where
  /-- The form of the lines. -/
  form : Form
  /-- Whether the lines are coloured. -/
  coloured : Bool
  /-- The clock. -/
  clock : Clock
  deriving DecidableEq, Repr

/-! ### Colours -/

/-- A text in the look of a terminal code. -/
def Hand.look (h : Hand) (code text : String) : String :=
  if h.coloured then s!"\x1b[{code}m{text}\x1b[0m" else text

/-- A bold text. -/
def Hand.bold (h : Hand) : String → String := h.look "1"

/-- A dimmed text. -/
def Hand.dimmed (h : Hand) : String → String := h.look "2"

/-- A slanted text. -/
def Hand.slanted (h : Hand) : String → String := h.look "3"

/-- The colour of a level. -/
def Level.colour : Level → String
  | error => "31"
  | warn => "33"
  | info => "32"
  | debug => "34"
  | trace => "35"

/-- A level as five letters or blanks. -/
def Level.label : Level → String
  | error => "ERROR"
  | warn => " WARN"
  | info => " INFO"
  | debug => "DEBUG"
  | trace => "TRACE"

/-! ### Lines of words -/

namespace Hand

/-- The value of a detail. -/
def detailText (h : Hand) : Detail → String
  | .plain text => text
  | .quoted text => Text.quoted text
  | .number n => toString n
  | .flag b => if b then "true" else "false"
  | .elapsed => h.clock.elapsed

/-- Details, with blanks between them. -/
def detailsText (h : Hand) (details : Details) : String :=
  String.intercalate " " <| details.map fun (name, detail) =>
    h.slanted name ++ h.dimmed "=" ++ h.detailText detail

/-- A span with its details beside it. -/
def prettySpan (h : Hand) (s : Span) : String :=
  let details :=
    if s.details.isEmpty then ""
    else h.bold "\x7b" ++ h.detailsText s.details ++ h.bold "\x7d"
  h.bold s.name ++ details ++ h.dimmed ":"

/-- What happened, with the details of the record. -/
def eventText (h : Hand) (r : Record) : String :=
  let details := if r.details.isEmpty then [] else [h.detailsText r.details]
  String.intercalate " " (r.message :: details)

/-- A line with the details of each span beside its name. -/
def prettyLine (h : Hand) (r : Record) : String :=
  let spans := String.join (r.spans.map h.prettySpan)
  let parts := if r.spans.isEmpty then [] else [spans]
  String.intercalate " " (h.look r.level.colour r.level.label :: parts ++ [h.eventText r])

/-- A line with the details of all spans at its end. -/
def compactLine (h : Hand) (r : Record) : String :=
  let names := String.join (r.spans.map fun s => h.bold s.name ++ ":")
  let parts := if r.spans.isEmpty then [] else [names]
  let details := (r.spans.filter fun s => !s.details.isEmpty).map fun s =>
    h.dimmed (h.detailsText s.details)
  String.intercalate " "
    (h.look r.level.colour r.level.label :: parts ++ [h.eventText r] ++ details)

/-! ### Lines of JSON -/

/-- The value of a detail in JSON. -/
def detailValue (h : Hand) : Detail → Json.Value
  | .plain text | .quoted text => .ofString text
  | .number n => .ofNat n
  | .flag b => .bool b
  | .elapsed => .ofString h.clock.elapsed

/-- Details as members. -/
def members (h : Hand) (details : Details) : List (String × Json.Value) :=
  details.map fun (name, detail) => (name, h.detailValue detail)

/-- A span as an object. -/
def spanValue (h : Hand) (s : Span) : Json.Value :=
  .ofMembers (h.members s.details ++ [("name", .ofString s.name)])

/-- A record as an object. -/
def recordValue (h : Hand) (r : Record) : Json.Value :=
  let fields := Json.Value.ofMembers (("message", .ofString r.message) :: h.members r.details)
  let spans :=
    match r.spans.getLast? with
    | some innermost =>
      [("span", h.spanValue innermost), ("spans", .ofList (r.spans.map h.spanValue))]
    | none => []
  .ofMembers ([("timestamp", .ofString h.clock.now),
    ("level", .ofString r.level.label.trimAscii.toString), ("fields", fields)] ++ spans)

/-- The line of a record, without its end. -/
def line (h : Hand) (r : Record) : String :=
  match h.form with
  | .pretty => h.prettyLine r
  | .compact => h.compactLine r
  | .json => (h.recordValue r).compact

/-- The lines of some records. -/
def text (h : Hand) (rs : List Record) : String :=
  String.join (rs.map fun r => h.line r ++ "\n")

end Hand

end EntityForge.Journal
