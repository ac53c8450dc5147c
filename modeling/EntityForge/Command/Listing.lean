import EntityForge.Grid.Drawing
import EntityForge.Model.Entity

/-!
# Listings

What is shown of the known column types and of the entities of a document.
-/

namespace EntityForge.Command

open Model (Entity Field TypeTable)

/-- What stands for something that is not there. -/
def absent : String := "-"

/-- A text, or the sign for something that is not there. -/
def orAbsent (text : Option String) : String :=
  text.getD absent

/-! ### Column types -/

/-- The grid of the column types of a table. -/
def typesGrid (types : TypeTable) : Grid where
  frame := .condensed
  pageWidth := 120
  columns := ["Column type", "Java type", "Import"].map fun heading => { heading }
  rows := types.entries.map fun (keyword, t) => [keyword, t.simpleName, orAbsent t.qualifiedName?]

/-- The listing of the column types of a table. -/
def typesText (types : TypeTable) : String :=
  (typesGrid types).text ++ "\n"

/-! ### Entities -/

/-- The columns of the grid of an entity. -/
def fieldColumns : List Grid.Column :=
  [{ heading := "Field", bound := .atMostPercent 20 },
    { heading := "Column", bound := .atMostPercent 20 },
    { heading := "Column type", bound := .atLeast 11 },
    { heading := "Java type", bound := .atLeast 9 },
    { heading := "Length", bound := .atLeast 6, alignment := .right },
    { heading := "Required", bound := .atLeast 8, alignment := .center },
    { heading := "Comment", bound := .atMostPercent 35 }]

/-- The row of a field. -/
def fieldRow (f : Field) : List String :=
  [if f.isPrimaryKey then s!"{f.name} (PK)" else f.name,
    f.colName,
    f.colType,
    f.javaType.simpleName,
    orAbsent (f.colLength.map fun n => toString n.toNat),
    if f.mandatory then "✓" else absent,
    orAbsent f.comment]

/-- The grid of an entity. -/
def entityGrid (e : Entity) : Grid where
  frame := .condensed
  pageWidth := 120
  columns := fieldColumns
  rows := e.fields.map fieldRow

/-- The line above the grid of an entity. -/
def entityHeading (e : Entity) : String :=
  s!"{e.name} ({e.tableName})" ++ e.comment.elim "" (" - " ++ ·)

/-- The listing of an entity. -/
def entityText (e : Entity) : String :=
  s!"{entityHeading e}\n{(entityGrid e).text}\n"

/-- The listing of entities, with empty lines between them. -/
def entitiesText (entities : List Entity) : String :=
  String.intercalate "\n" (entities.map entityText)

end EntityForge.Command
