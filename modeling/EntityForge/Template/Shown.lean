import EntityForge.Decimal.Shortest
import EntityForge.Template.Value
import EntityForge.Text.Quoted

/-!
# The texts of values

How a value is written where an expression stands for its text, inside a list or a map, over several
lines, and in markup.
-/

namespace EntityForge.Template

namespace Value

/-- The text of a double: a point is always in it. -/
def floatText (x : Float) : String :=
  Decimal.text .plain x

/-- The format of the numbers inside lists and maps: below a ten-thousandth and from 10^16 on they
are written with a power of ten. -/
def nestedNumber : Decimal.NumberFormat := { leastPoint := -3, greatestPoint := 16 }

/-- The text of a function that every template knows. -/
def functionText (name : String) : String :=
  "minijinja::functions::builtins::" ++ name

/-- Texts in brackets with commas between them. -/
def bracketed (start stop : String) (texts : List String) : String :=
  start ++ String.intercalate ", " texts ++ stop

mutual

/-- The text of a value inside a list or a map. -/
def inner : Value → String
  | undefined | omitted => "undefined"
  | none => "None"
  | bool b => if b then "True" else "False"
  | integer n _ => toString n
  | float x => Decimal.text nestedNumber x
  | text s _ => Text.quoted s
  | list items | iterable items _ => bracketed "[" "]" (innerAll items)
  | group key items => bracketed "[" "]" [key.inner, bracketed "[" "]" (innerAll items)]
  | dict pairs => bracketed "\x7b" "\x7d" (innerPairs pairs)
  | named pairs | nameSpace _ pairs => bracketed "\x7b" "\x7d" (innerNamed pairs)
  | library s _ => s
  | loop _ index length _ _ _ => s!"<loop {index}/" ++ length.elim "?" toString ++ ">"
  | routine r _ _ => s!"<macro {r.name}>"
  | function name => functionText name

/-- The texts of values inside a list. -/
def innerAll : List Value → List String
  | [] => []
  | v :: rest => v.inner :: innerAll rest

/-- The texts of members inside a map. -/
def innerPairs : List (Value × Value) → List String
  | [] => []
  | (key, v) :: rest => (key.inner ++ ": " ++ v.inner) :: innerPairs rest

/-- The texts of members with names inside a map. -/
def innerNamed : List (String × Value) → List String
  | [] => []
  | (key, v) :: rest => (Text.quoted key ++ ": " ++ v.inner) :: innerNamed rest

end

/-- Lines in brackets behind a margin, unless there are none. -/
def spreadLines (start stop margin lines : String) : String :=
  if lines = "" then start ++ stop else start ++ "\n" ++ lines ++ margin ++ stop

mutual

/-- The text of a value with the items of lists and maps on lines of their own, behind a margin. -/
def spread (margin : String) : Value → String
  | list items | iterable items _ =>
    spreadLines "[" "]" margin (spreadAll (margin ++ "    ") items)
  | group key items =>
    let inside := margin ++ "    "
    spreadLines "[" "]" margin (inside ++ key.spread inside ++ ",\n" ++ inside ++
      spreadLines "[" "]" inside (spreadAll (inside ++ "    ") items) ++ ",\n")
  | dict pairs => spreadLines "\x7b" "\x7d" margin (spreadPairs (margin ++ "    ") pairs)
  | named pairs | nameSpace _ pairs =>
    spreadLines "\x7b" "\x7d" margin (spreadNamed (margin ++ "    ") pairs)
  | v => v.inner

/-- The lines of the items of a list. -/
def spreadAll (margin : String) : List Value → String
  | [] => ""
  | v :: rest => margin ++ v.spread margin ++ ",\n" ++ spreadAll margin rest

/-- The lines of the members of a map. -/
def spreadPairs (margin : String) : List (Value × Value) → String
  | [] => ""
  | (key, v) :: rest =>
    margin ++ key.spread margin ++ ": " ++ v.spread margin ++ ",\n" ++ spreadPairs margin rest

/-- The lines of members with names. -/
def spreadNamed (margin : String) : List (String × Value) → String
  | [] => ""
  | (key, v) :: rest =>
    margin ++ Text.quoted key ++ ": " ++ v.spread margin ++ ",\n" ++ spreadNamed margin rest

end

/-- The text of a value. -/
def shown : Value → String
  | undefined | omitted => ""
  | text s _ => s
  | float x => floatText x
  | v => v.inner

/-- A character where it could be read as markup. -/
def escapedChar (c : Char) : String :=
  if c = '<' then "&lt;"
  else if c = '>' then "&gt;"
  else if c = '&' then "&amp;"
  else if c = '"' then "&quot;"
  else if c = '\'' then "&#x27;"
  else if c = '/' then "&#x2f;"
  else c.toString

/-- The text of a value in markup. -/
def escaped : Value → String
  | text s true => s
  | v =>
    match v.kind with
    | .undefined | .none | .bool | .number => v.shown
    | _ => String.join (v.shown.toList.map escapedChar)

end Value

end EntityForge.Template
