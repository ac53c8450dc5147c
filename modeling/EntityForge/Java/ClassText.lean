import EntityForge.Java.Style
import EntityForge.Model.Entity
import EntityForge.Text.Case

/-!
# The text of a class

The class of an entity is written line by line: the package, the imports in order, the comment on
the class, its annotations, the fields and the accessors. Comment text is trimmed line by line, and
the sign that would end the comment is written so that it does not.
-/

namespace EntityForge.Java

open Model (Entity Field NameSet)

/-- The lines of a text. A line feed ends a line. -/
def lines (text : String) : List String :=
  let pieces := (text.toList.splitOnP (· == '\n')).map String.ofList
  if pieces.getLast? = some "" then pieces.dropLast else pieces

/-- A text in which no sign ends a comment. -/
def withoutCommentEnd : List Char → List Char
  | '*' :: '/' :: rest => "*&#47;".toList ++ withoutCommentEnd rest
  | c :: rest => c :: withoutCommentEnd rest
  | [] => []

/-- A line of comment text. -/
def commentText (line : String) : String :=
  String.ofList (withoutCommentEnd (Text.trim line).toList)

/-- The indentation of a level. -/
def indent : Nat → String
  | 0 => ""
  | n + 1 => "    " ++ indent n

/-- The name of a field as the name of an accessor goes on with it: its first character is in upper
case. -/
def accessorSuffix (name : String) : String :=
  match name.toList with
  | [] => ""
  | c :: cs => String.ofList (Text.upper c ++ cs)

/-- What the annotations of a style import for an entity. -/
def styleImports (style : Style) (e : Entity) : List String :=
  match style with
  | .pojo => []
  | .lombok => ["lombok.Data"]
  | .jpa =>
    ["jakarta.persistence.Column", "jakarta.persistence.Entity", "jakarta.persistence.Table"] ++
      (if e.primaryKey?.isSome then ["jakarta.persistence.Id"] else [])

/-- Everything that the class of an entity imports. -/
def imports (style : Style) (e : Entity) : NameSet :=
  (styleImports style e).foldl NameSet.insert e.dependencies

/-- Lines followed by an empty line, unless there are none. -/
def paragraph (lines : List String) : List String :=
  if lines.isEmpty then [] else lines ++ [""]

/-- The comment on a class. -/
def classComment (e : Entity) : List String :=
  let comment := match Text.nonBlankOf e.comment with
    | some text => (lines text).map (" * " ++ commentText ·) ++ [" * <p>"]
    | none => []
  let creator := Text.nonBlankOf e.creator
  let rest :=
    (creator.map fun name => " * @author " ++ commentText name).toList ++
      (e.createDate.map fun date => " * @date " ++ date.toPlainText).toList
  ["/**"] ++ comment ++ [" * Table: " ++ e.tableName] ++
    (if rest.isEmpty then [] else " *" :: rest) ++ [" */"]

/-- The annotations of a class. -/
def classAnnotations (style : Style) (e : Entity) : List String :=
  match style with
  | .pojo => []
  | .lombok => ["@Data"]
  | .jpa => ["@Entity", "@Table(name = \"" ++ e.tableName ++ "\")"]

/-- The comment on a field. -/
def fieldComment (f : Field) : List String :=
  match Text.nonBlankOf f.comment with
  | some text =>
    [indent 1 ++ "/**"] ++ (lines text).map (indent 1 ++ " * " ++ commentText ·) ++
      [indent 1 ++ " */"]
  | none => []

/-- The annotations of a field. -/
def fieldAnnotations (style : Style) (f : Field) : List String :=
  match style with
  | .jpa =>
    (if f.isPrimaryKey then [indent 1 ++ "@Id"] else []) ++
      [indent 1 ++ "@Column(name = \"" ++ f.colName ++ "\"" ++
        (f.colLength.elim "" fun n => s!", length = {n}") ++
        (if f.mandatory then ", nullable = false" else "") ++ ")"]
  | _ => []

/-- A field, with an empty line before it. -/
def fieldLines (style : Style) (f : Field) : List String :=
  [""] ++ fieldComment f ++ fieldAnnotations style f ++
    [indent 1 ++ "private " ++ f.javaType.simpleName ++ " " ++ f.name ++ ";"]

/-- The two accessors of a field, with an empty line before each. -/
def accessorLines (f : Field) : List String :=
  let type := f.javaType.simpleName
  let suffix := accessorSuffix f.name
  ["",
    indent 1 ++ "public " ++ type ++ " get" ++ suffix ++ "() \x7b",
    indent 2 ++ "return " ++ f.name ++ ";",
    indent 1 ++ "\x7d",
    "",
    indent 1 ++ "public void set" ++ suffix ++ "(" ++ type ++ " " ++ f.name ++ ") \x7b",
    indent 2 ++ "this." ++ f.name ++ " = " ++ f.name ++ ";",
    indent 1 ++ "\x7d"]

/-- The lines of the class of an entity. -/
def classLines (style : Style) (package : String) (e : Entity) : List String :=
  paragraph (if package = "" then [] else ["package " ++ package ++ ";"]) ++
    paragraph ((imports style e).names.map fun name => "import " ++ name ++ ";") ++
    classComment e ++ classAnnotations style e ++
    ["public class " ++ e.name ++ " \x7b"] ++
    e.fields.flatMap (fieldLines style) ++
    (if style.hasAccessors then e.fields.flatMap accessorLines else []) ++
    ["\x7d"]

/-- The text of the class of an entity. -/
def classText (style : Style) (package : String) (e : Entity) : String :=
  String.join ((classLines style package e).map (· ++ "\n"))

end EntityForge.Java
