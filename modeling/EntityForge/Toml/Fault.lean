/-!
# Faults of TOML documents

A document has a fault if it is no TOML or if its values are not those that are asked for. A fault
belongs to a stretch of the document; its full wording shows the line with the stretch marked.
-/

namespace EntityForge.Toml

/-- A stretch of a document, by the numbers of characters before its ends. -/
structure Span where
  /-- The number of characters before it. -/
  start : Nat
  /-- The number of characters up to its end. -/
  stop : Nat
  deriving DecidableEq, Repr

/-- What is wrong. -/
inductive Complaint
  /-- A member has a name that is not known. -/
  | unknownField (name : String) (known : List String)
  /-- A choice is not one of those that are known. -/
  | unknownVariant (name : String) (known : List String)
  /-- A value is of another type than expected. -/
  | invalidType (found expected : String)
  /-- The text is no TOML, or a value has the wrong shape. -/
  | malformed (message : String)
  deriving DecidableEq, Repr

/-- Names in a sentence. -/
def oneOf (names : List String) : String :=
  "expected one of " ++ String.intercalate ", " (names.map fun name => "`" ++ name ++ "`")

/-- The wording of a complaint. -/
def Complaint.message : Complaint → String
  | unknownField name known => s!"unknown field `{name}`, " ++ oneOf known
  | unknownVariant name known => s!"unknown variant `{name}`, " ++ oneOf known
  | invalidType found expected => s!"invalid type: {found}, expected {expected}"
  | malformed message => message

/-- What is wrong with a document, and where. -/
structure Fault where
  /-- What is wrong. -/
  complaint : Complaint
  /-- Where it is wrong, if that can be said. -/
  span : Option Span
  /-- The document. -/
  source : String := ""
  deriving DecidableEq, Repr

namespace Fault

/-- A text that is no TOML at a stretch of the document. -/
def textAt (message : String) (start stop : Nat) : Fault :=
  { complaint := .malformed message, span := some ⟨start, stop⟩ }

/-- The number of bytes of some characters. -/
def byteCount (cs : List Char) : Nat :=
  (String.ofList cs).utf8ByteSize

/-- What stands before a place. Behind the last character there is no line of its own, so the
characters before that one and an offset of one stand for it. -/
def before (f : Fault) (start : Nat) : List Char × Nat :=
  let cs := f.source.toList
  if start = cs.length ∧ !cs.isEmpty then (cs.dropLast, 1) else (cs.take start, 0)

/-- The line of a place, and its column. The column of a character outside ASCII is counted in
bytes. -/
def position (f : Fault) (start : Nat) : Nat × Nat :=
  let (cs, offset) := f.before start
  let onLine := (cs.reverse.takeWhile (· != '\n')).reverse
  let next := (f.source.toList.drop cs.length).head?
  let column :=
    if offset = 0 ∧ next.any (0x80 ≤ ·.toNat) then byteCount onLine else onLine.length
  (cs.count '\n', column + offset)

/-- The line of a stretch with marks below the stretch. -/
def excerpt (f : Fault) (span : Span) : String :=
  let (line, column) := f.position span.start
  let content := (f.source.splitOn "\n").getD line ""
  let gutter := String.ofList (List.replicate ((toString (line + 1)).length + 1) ' ')
  let marked := (f.source.toList.drop span.start).take (span.stop - span.start)
  let width := min (byteCount marked) (content.utf8ByteSize - column)
  let marks := String.ofList (List.replicate (max width 1) '^')
  let shift := String.ofList (List.replicate column ' ')
  s!"TOML parse error at line {line + 1}, column {column + 1}\n" ++
    s!"{gutter}|\n{line + 1} | {content}\n{gutter}| {shift}{marks}\n"

/-- The wording of a fault, with the line it is on. -/
def message (f : Fault) : String :=
  f.span.elim "" f.excerpt ++ f.complaint.message ++ "\n"

end Fault

end EntityForge.Toml
