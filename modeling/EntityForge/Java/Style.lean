import EntityForge.Text.Blank
import EntityForge.Text.Case

/-!
# Styles of classes

The three built-in ways to write the class of an entity.
-/

namespace EntityForge.Java

/-- A way to write a class. -/
inductive Style
  /-- A plain class with accessors. -/
  | pojo
  /-- A class whose accessors an annotation adds. -/
  | lombok
  /-- A class with accessors that is mapped to its table by annotations. -/
  | jpa
  deriving DecidableEq, Repr

namespace Style

/-- All styles. -/
def all : List Style := [pojo, lombok, jpa]

/-- The name of a style. -/
def name : Style → String
  | pojo => "pojo"
  | lombok => "lombok"
  | jpa => "jpa"

/-- The style that a text names, in any case and with any blanks around it. -/
def ofText? (text : String) : Option Style :=
  all.find? fun s => s.name == Text.asciiLower (Text.trim text)

/-- The wording for a text that names no style. -/
def unknownMessage (text : String) : String :=
  s!"unknown template '{text}' (expected one of: pojo, lombok, jpa)"

/-- Whether the class has accessors of its own. -/
def hasAccessors : Style → Bool
  | lombok => false
  | _ => true

theorem ofText?_name (s : Style) : ofText? s.name = some s := by
  cases s <;> decide +kernel

end Style

end EntityForge.Java
