import EntityForge.Calendar.Instant
import EntityForge.Text.Blank
import EntityForge.Word

/-!
# Reading instants

A date and time is read with its offset from UTC. The reading is lenient where the writing is
strict: parts may have fewer digits and blanks between them, a blank may stand for the `T`, `UTC` or
`Z` for the offset, and a year with a sign may have any number of digits. The parts are read from
left to right, each is checked as it is read, and only then is the whole put together.
-/

namespace EntityForge.Calendar

/-- Why a text is no date and time. -/
inductive ReadFault
  /-- A part is out of its range. -/
  | outOfRange
  /-- The moment is out of reach in UTC. -/
  | impossible
  /-- A character does not belong where it stands. -/
  | invalid
  /-- The text ends too early. -/
  | tooShort
  /-- Something follows the date and time. -/
  | tooLong
  deriving DecidableEq, Repr

/-- The wording of a fault. -/
def ReadFault.message : ReadFault → String
  | outOfRange => "input is out of range"
  | impossible => "no possible date and time matching input"
  | invalid => "input contains invalid characters"
  | tooShort => "premature end of input"
  | tooLong => "trailing input"

/-- A text without the blanks at its start. -/
def skipBlanks (cs : List Char) : List Char :=
  cs.dropWhile Text.isBlank

/-- One digit or more, and at most a number of them. -/
def readDigits (most : Nat) (cs : List Char) : Except ReadFault (Nat × List Char) :=
  let ds := (cs.take most).takeWhile Char.isDigit
  match cs, ds with
  | [], _ => .error .tooShort
  | _, [] => .error .invalid
  | _, _ =>
    match Text.digits? ds with
    | some n => if n < Word.count 63 then .ok (n, cs.drop ds.length) else .error .outOfRange
    | none => .error .invalid

/-- A number of one or two digits within bounds, behind blanks. -/
def readTwo (least greatest : Nat) (cs : List Char) : Except ReadFault (Nat × List Char) := do
  let (n, rest) ← readDigits 2 (skipBlanks cs)
  if least ≤ n ∧ n ≤ greatest then return (n, rest) else throw .outOfRange

/-- A number behind blanks: up to four digits, or any number of them behind a sign. -/
def readSigned (cs : List Char) : Except ReadFault (Int × List Char) :=
  match skipBlanks cs with
  | '-' :: ds => (readDigits ds.length ds).map fun (n, rest) => (-(n : Int), rest)
  | '+' :: ds => (readDigits ds.length ds).map fun (n, rest) => ((n : Int), rest)
  | ds => (readDigits 4 ds).map fun (n, rest) => ((n : Int), rest)

/-- A year, which has to fit in a word. -/
def readYear (cs : List Char) : Except ReadFault (Int × List Char) := do
  let (year, rest) ← readSigned cs
  if Word.Signed 31 year then return (year, rest) else throw .outOfRange

/-- A separator behind blanks. -/
def readMark (mark : Char) (cs : List Char) : Except ReadFault (List Char) :=
  match skipBlanks cs with
  | [] => .error .tooShort
  | c :: rest => if c = mark then .ok rest else .error .invalid

/-- The separator between the date and the time. -/
def readTimeMark : List Char → Except ReadFault (List Char)
  | 't' :: rest | 'T' :: rest | ' ' :: rest => .ok rest
  | [] => .error .tooShort
  | _ => .error .invalid

/-- A fraction of a second in nanoseconds, if there is one. Digits after the ninth are passed
over. -/
def readFraction (cs : List Char) : Except ReadFault (Nat × List Char) :=
  match cs with
  | '.' :: rest => do
    let ds := (rest.take 9).takeWhile Char.isDigit
    let (n, after) ← readDigits 9 rest
    return (n * Nat.pow 10 (9 - ds.length), after.dropWhile Char.isDigit)
  | _ => .ok (0, cs)

/-- Two digits, of which the first is at most `lead`. A greater first digit is out of range. -/
def readPair (lead : Nat) (cs : List Char) : Except ReadFault (Nat × List Char) :=
  match cs with
  | [] => .error .tooShort
  | [c] => if c.utf8Size = 1 then .error .tooShort else .error .invalid
  | a :: b :: rest =>
    match Text.digit? a, Text.digit? b with
    | some x, some y => if x ≤ lead then .ok (10 * x + y, rest) else .error .outOfRange
    | _, _ => .error .invalid

/-- The hours and minutes of an offset, in seconds. -/
def readClockOffset (cs : List Char) : Except ReadFault (Nat × List Char) := do
  let (hours, rest) ← readPair 9 cs
  let afterColon := rest.dropWhile fun c => c == ':' || Text.isBlank c
  let (minutes, after) ← readPair 5 afterColon
  return (hours * 3600 + minutes * 60, after)

/-- The offset from UTC in seconds. -/
def readOffset (cs : List Char) : Except ReadFault (Int × List Char) :=
  match cs with
  | 'Z' :: rest | 'z' :: rest => .ok (0, rest)
  | '+' :: rest => (readClockOffset rest).map fun (n, after) => ((n : Int), after)
  | '-' :: rest | '\u2212' :: rest =>
    (readClockOffset rest).map fun (n, after) => (-(n : Int), after)
  | [] => .error .tooShort
  | _ => .error .invalid

/-- The offset from UTC, which may be written by the name of UTC. -/
def readZone (cs : List Char) : Except ReadFault (Int × List Char) :=
  if (cs.take 3).map Char.toUpper = ['U', 'T', 'C'] then .ok (0, cs.drop 3) else readOffset cs

/-- The parts of a date and time. -/
structure Parts where
  /-- The date. -/
  date : Civil
  /-- The hour. -/
  hour : Nat
  /-- The minute. -/
  minute : Nat
  /-- The second; sixty is a leap second. -/
  second : Nat
  /-- The nanoseconds. -/
  nanos : Nat
  /-- The offset from UTC in seconds. -/
  offset : Int
  deriving Repr

/-- The instant that the parts denote. -/
def Parts.instant (p : Parts) : Except ReadFault Instant :=
  if ¬ (p.date.isValid ∧ firstYear ≤ p.date.year ∧ p.date.year ≤ lastYear) then
    .error .outOfRange
  else if ¬ (-(secondsPerDay : Int) < p.offset ∧ p.offset < secondsPerDay) then .error .outOfRange
  else
    let leap := p.second / 60
    let clock := p.hour * 3600 + p.minute * 60 + (p.second - leap)
    let t : Instant :=
      ⟨p.date.toDay * secondsPerDay + clock - p.offset, p.nanos + leap * 1000000000⟩
    if t.inRange then .ok t else .error .impossible

/-- The parts that a text consists of. -/
def Parts.read (text : String) : Except ReadFault Parts := do
  let (year, s) ← readYear text.toList
  let s ← readMark '-' s
  let (month, s) ← readTwo 1 12 s
  let s ← readMark '-' s
  let (day, s) ← readTwo 1 31 s
  let s ← readTimeMark s
  let (hour, s) ← readTwo 0 23 s
  let s ← readMark ':' s
  let (minute, s) ← readTwo 0 59 s
  let s ← readMark ':' s
  let (second, s) ← readTwo 0 60 s
  let (nanos, s) ← readFraction s
  let (offset, s) ← readZone (skipBlanks s)
  if skipBlanks s = [] then return ⟨⟨year, month, day⟩, hour, minute, second, nanos, offset⟩
  else throw .tooLong

/-- The instant that a text denotes. -/
def Instant.ofText (text : String) : Except ReadFault Instant := do
  (← Parts.read text).instant

end EntityForge.Calendar
