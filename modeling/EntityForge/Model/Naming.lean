import EntityForge.Text.Blank
import EntityForge.Text.Case
import EntityForge.Text.Cluster

/-!
# Names of classes and fields

The name of a table or column falls into words at its underscores; digits and capitals start no
word. A class name is the words capitalised one after another, a field name the same with the first
word in lower case.

All tables may share a prefix. It is part of the stored name of a table and is put there once, and
it is taken off before the class is named. A blank prefix is no prefix.
-/

namespace EntityForge.Model

/-- The words of a name: what lies between underscores, less the empty pieces. An underscore with a
mark on it separates nothing. -/
def words (name : List Char) : List (List Char) :=
  ((Text.clusters name).splitOnP (· == ['_'])).filterMap fun piece =>
    if piece.isEmpty then none else some piece.flatten

/-- A word with its first letter in upper case and the others in lower case. -/
def capitalized (word : List Char) : List Char :=
  match Text.clusters word with
  | [] => []
  | first :: rest => Text.upperText first ++ Text.lowerText rest.flatten

/-- The words of a name, each capitalised, one after another. -/
def upperCamel (name : String) : String :=
  String.ofList ((words name.toList).flatMap capitalized)

/-- The words of a name one after another, the first in lower case and the others capitalised. -/
def lowerCamel (name : String) : String :=
  match words name.toList with
  | [] => ""
  | first :: rest => String.ofList (Text.lowerText first ++ rest.flatMap capitalized)

/-- A name, or another one where it is empty. -/
def orElseName (name fallback : String) : String :=
  if name = "" then fallback else name

/-- The rule by which tables and columns are named. -/
structure Naming where
  /-- The prefix that all tables share. -/
  tablePrefix : String := ""
  deriving DecidableEq, Repr

namespace Naming

/-- The prefix, unless it is blank. -/
def sharedPrefix? (n : Naming) : Option String :=
  if Text.trim n.tablePrefix = "" then none else some n.tablePrefix

/-- The stored name of the table of a code. -/
def tableName (n : Naming) (code : String) : String :=
  match n.sharedPrefix? with
  | some p => if p.toList.isPrefixOf code.toList then code else p ++ code
  | none => code

/-- A code without the prefix. -/
def stripped (n : Naming) (code : String) : String :=
  match n.sharedPrefix? with
  | some p =>
    if p.toList.isPrefixOf code.toList then String.ofList (code.toList.drop p.length) else code
  | none => code

/-- The class name of the table of a code. A code that leaves no word gives its name whole. -/
def className (n : Naming) (code : String) : String :=
  orElseName (upperCamel (n.stripped code)) (orElseName (upperCamel code) code)

/-- The field name of a column. A column name without words is kept. -/
def fieldName (columnName : String) : String :=
  orElseName (lowerCamel columnName) columnName

end Naming

end EntityForge.Model
