import EntityForge.Text.Letter

/-!
# Identifiers and packages

A package is empty or a sequence of identifiers with dots between them.
-/

namespace EntityForge.Java

/-- Whether a character can start an identifier. -/
def startsIdentifier (c : Char) : Bool :=
  Text.isLetter c || c == '_' || c == '$'

/-- Whether a character can stand in an identifier. -/
def inIdentifier (c : Char) : Bool :=
  Text.isLetterOrNumber c || c == '_' || c == '$'

/-- Whether a text is an identifier. -/
def isIdentifier (s : String) : Bool :=
  match s.toList with
  | [] => false
  | c :: cs => startsIdentifier c && cs.all inIdentifier

/-- The segments of a package between its dots. -/
def segments (package : String) : List String :=
  (package.toList.splitOnP (· == '.')).map String.ofList

/-- The first segment of a package that is no identifier. The empty package has none. -/
def badSegment? (package : String) : Option String :=
  if package = "" then none else (segments package).find? fun s => !isIdentifier s

end EntityForge.Java
