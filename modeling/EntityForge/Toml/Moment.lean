import EntityForge.Toml.Unescaped

/-!
# Dates and times of TOML

A date, a time, or a date with a time and possibly the distance from universal time. Numbers have
two digits, years four, and each part has to be in its range.
-/

namespace EntityForge.Toml

/-- The reason why a text is no date or time: the part and what was expected of it. -/
structure MomentFault where
  /-- The part. -/
  part : String := "datetime"
  /-- What was expected. -/
  expected : Option String := none

namespace MomentFault

/-- The wording of a reason. -/
def message (f : MomentFault) : String :=
  s!"invalid {f.part}" ++ f.expected.elim "" (", expected " ++ ·)

end MomentFault

/-- Steps that take characters from a date or a time. -/
abbrev MomentReading := StateT (List Char) (Except MomentFault)

namespace MomentReading

/-- Failure of a part. -/
def fail {α : Type} (part expected : String) : MomentReading α :=
  throw ⟨part, some expected⟩

/-- The digits that come next. -/
def digits (part expected : String) : MomentReading (List Char) := do
  let ds := (← get).takeWhile Char.isDigit
  if ds.isEmpty then fail part expected
  modify (·.drop ds.length)
  return ds

/-- A character that has to come next. -/
def sign (c : Char) (part expected : String) : MomentReading Unit := do
  match ← get with
  | d :: rest => if d = c then set rest else fail part expected
  | [] => fail part expected

/-- Whether a character comes next; it is taken if so. -/
def skip (p : Char → Bool) : MomentReading Bool := do
  match ← get with
  | d :: rest =>
    if p d then
      set rest
      return true
    return false
  | [] => return false

/-- Refuses digits of another number than a part has. -/
def width (n : Nat) (ds : List Char) (part expected : String) : MomentReading Unit :=
  if ds.length = n then return () else fail part expected

/-- Refuses digits of a number that is too great. -/
def atMost (n : Nat) (ds : List Char) (part expected : String) : MomentReading Unit :=
  if numberOf 10 ds ≤ n then return () else fail part expected

/-- The last day of a month. -/
def lastDay (year month : Nat) : Nat :=
  let leap := year % 4 == 0 && (year % 100 != 0 || year % 400 == 0)
  if month = 2 then (if leap then 29 else 28) else if [4, 6, 9, 11].contains month then 30 else 31

/-- The date whose year has been read, up to a sign behind it. -/
def date (year : List Char) : MomentReading Unit := do
  let month ← digits "date" "month"
  sign '-' "date" "`-` (MM-DD)"
  let day ← digits "date" "day"
  width 4 year "date" "a four-digit year (YYYY)"
  width 2 month "date" "a two-digit month (MM)"
  width 2 day "date" "a two-digit day (DD)"
  let m := numberOf 10 month
  if m < 1 ∨ 12 < m then fail "date" "month between 01 and 12"
  let last := lastDay (numberOf 10 year) m
  let d := numberOf 10 day
  if d < 1 ∨ last < d then fail "date" s!"day between 01 and {last}"

/-- A time. -/
def time : MomentReading Unit := do
  let hour ← digits "time" "hour"
  sign ':' "time" "`:` (HH:MM)"
  let minute ← digits "time" "minute"
  let second ←
    if ← skip (· == ':') then do
      let ds ← digits "time" "second"
      if ← skip (· == '.') then discard (digits "time" "nanosecond")
      pure ds
    else pure ['0', '0']
  width 2 hour "time" "a two-digit hour (HH)"
  width 2 minute "time" "a two-digit minute (MM)"
  width 2 second "time" "a two-digit second (SS)"
  atMost 23 hour "time" "hour between 00 and 23"
  atMost 59 minute "time" "minute between 00 and 59"
  atMost 60 second "time" "second between 00 and 60"

/-- The distance from universal time. -/
def offset : MomentReading Unit := do
  if (← get).isEmpty then return ()
  if ← skip fun c => c == 'Z' || c == 'z' then return ()
  unless ← skip fun c => c == '+' || c == '-' do fail "offset" "`Z`, +OFFSET, -OFFSET"
  let hours ← digits "offset" "hour"
  sign ':' "offset" "`:` (HH:MM)"
  let minutes ← digits "offset" "minute"
  width 2 hours "offset" "a two-digit hour (HH)"
  width 2 minutes "offset" "a two-digit minute (MM)"
  atMost 23 hours "offset" "hours between 00 and 23"
  atMost 59 minutes "offset" "minutes between 00 and 59"

/-- A date, a time or both. -/
def whole : MomentReading Unit := do
  let start ← get
  let first ← digits "datetime" "year or hour"
  if ← skip (· == '-') then
    date first
    unless (← get).isEmpty do
      unless ← skip fun c => c == 'T' || c == 't' || c == ' ' do
        fail "date-time" "`T` between date and time"
      time
      offset
  else if (← get).head? = some ':' then
    set start
    time
  else fail "datetime" "`-` (YYYY-MM) or `:` (HH:MM)"
  unless (← get).isEmpty do throw {}

end MomentReading

/-- The reason why a text is no date or time, if it is none. -/
def momentFault? (cs : List Char) : Option MomentFault :=
  match MomentReading.whole.run cs with
  | .ok _ => none
  | .error f => some f

end EntityForge.Toml
