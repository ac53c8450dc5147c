/-!
# Records of a journal

While a command runs it keeps a journal. A record of the journal has a level, names the part of the
program that makes it, says in a few words what happened and gives details. It is made inside spans:
stretches of work with details of their own, the outermost first.
-/

namespace EntityForge.Journal

/-- How much a record matters. -/
inductive Level
  /-- A failure. -/
  | error
  /-- Something suspicious. -/
  | warn
  /-- A step that was taken. -/
  | info
  /-- A detail of a step. -/
  | debug
  /-- A detail that hardly ever matters. -/
  | trace
  deriving DecidableEq, Repr

namespace Level

/-- All levels, the one that matters most first. -/
def all : List Level := [error, warn, info, debug, trace]

/-- The place of a level among all of them. -/
def rank : Level → Nat
  | error => 1
  | warn => 2
  | info => 3
  | debug => 4
  | trace => 5

/-- The name of a level. -/
def name : Level → String
  | error => "error"
  | warn => "warn"
  | info => "info"
  | debug => "debug"
  | trace => "trace"

end Level

/-- What is let through: all levels up to one, or none at all. -/
abbrev Threshold := Option Level

namespace Threshold

/-- The place of a threshold among all of them. -/
def rank : Threshold → Nat
  | none => 0
  | some level => level.rank

/-- The threshold of a place. -/
def ofRank : Nat → Threshold
  | 0 => none
  | 1 => some .error
  | 2 => some .warn
  | 3 => some .info
  | 4 => some .debug
  | _ => some .trace

/-- Whether a threshold lets a level through. -/
def admits (t : Threshold) (level : Level) : Bool :=
  level.rank ≤ t.rank

/-- The threshold that lets more through. -/
def max (t u : Threshold) : Threshold :=
  if t.rank < u.rank then u else t

end Threshold

/-- The value of a detail. -/
inductive Detail
  /-- A text that is shown as it is. -/
  | plain (text : String)
  /-- A text that is shown between quotes. -/
  | quoted (text : String)
  /-- A number. -/
  | number (n : Nat)
  /-- A truth value. -/
  | flag (b : Bool)
  /-- The milliseconds since the command started. -/
  | elapsed
  deriving DecidableEq, Repr

/-- The details of a record or a span, with their names. -/
abbrev Details := List (String × Detail)

/-- A stretch of work. -/
structure Span where
  /-- The name. -/
  name : String
  /-- The part of the program that does the work. -/
  target : String
  /-- The level. -/
  level : Level
  /-- The details. -/
  details : Details
  deriving DecidableEq, Repr

/-- A record. -/
structure Record where
  /-- The level. -/
  level : Level
  /-- The part of the program that makes the record. -/
  target : String
  /-- What happened. -/
  message : String
  /-- The details. -/
  details : Details := []
  /-- The spans around the record, the outermost first. -/
  spans : List Span := []
  deriving DecidableEq, Repr

/-- The record, inside one more span. -/
def Record.inside (span : Span) (r : Record) : Record :=
  { r with spans := span :: r.spans }

end EntityForge.Journal
