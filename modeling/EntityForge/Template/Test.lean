import EntityForge.Template.Argument
import EntityForge.Text.Case

/-!
# Tests of templates

A test says whether a value has a property. Some tests take a further value. Two of them are about
the names that a template knows.
-/

namespace EntityForge.Template

open Taking

/-- Whether the first value is divisible by the second. -/
def divisible (a b : Value) : Bool :=
  match Value.coerce? true a b with
  | some (.integers m n) => n != 0 && m % n == 0
  | some (.floats x y) => Exact.remainder x y == 0.0
  | _ => false

/-- Whether all characters are letters of the lower case. -/
def isLowerText (s : String) : Bool :=
  s.toList.all fun c => Text.lower c == [c] && Text.isCased c

/-- Whether all characters are letters of the upper case. -/
def isUpperText (s : String) : Bool :=
  s.toList.all fun c => Text.upper c == [c] && Text.isCased c

/-- Whether two values are one and the same. Values that are made of others are so only if they have
the same origin. -/
def identical (sameOrigin : Bool) (a b : Value) : Bool :=
  match a, b with
  | .nameSpace i _, .nameSpace j _ => i == j
  | .loop i .., .loop j .. => i == j
  | _, _ =>
    if a.isObject || b.isObject then sameOrigin else a.kind == b.kind && a.same b

/-- A test of one value. -/
def onValue (p : Value → Bool) : Taking Bool := do return p (← any)

/-- A test of two values. -/
def onValues (p : Value → Value → Bool) : Taking Bool := do return p (← any) (← any)

/-- A comparison. -/
def comparing (p : Ordering → Bool) : Taking Bool :=
  onValues fun a b => p (Value.order a b)

/-- Whether the first value is contained in the second, which must not be missing. -/
def containing : Taking Bool := do
  let v ← any
  let container ← any
  if container.isMissing then throw .undefinedValue
  match v.containedIn container with
  | .ok w => return w.truth
  | .error _ => return false

/-- The names of the filters. -/
def filterNames : List String :=
  ["upper_first", "safe", "escape", "e", "lower", "upper", "title", "capitalize", "replace", "trim",
    "split", "lines", "indent", "format", "default", "d", "round", "abs", "int", "float", "string",
    "bool", "pprint", "attr", "length", "count", "items", "dictsort", "reverse", "join", "first",
    "last", "min", "max", "sort", "unique", "groupby", "list", "batch", "slice", "sum", "select",
    "reject", "selectattr", "rejectattr", "chain", "zip", "map"]

/-- The names of the tests. -/
def testNames : List String :=
  ["undefined", "defined", "none", "safe", "escaped", "boolean", "odd", "even", "number", "integer",
    "int", "float", "string", "sequence", "iterable", "mapping", "startingwith", "endingwith",
    "lower", "upper", "sameas", "divisibleby", "eq", "equalto", "==", "ne", "!=", "lt", "lessthan",
    "<", "le", "<=", "gt", "greaterthan", ">", "ge", ">=", "in", "true", "false", "filter", "test"]

/-- The test of a name. -/
def test? : String → Option (Taking Bool)
  | "undefined" => some (onValue Value.isUndefined)
  | "defined" => some (onValue (!·.isUndefined))
  | "none" => some (onValue (·.kind == .none))
  | "safe" | "escaped" => some (onValue fun | .text _ safe => safe | _ => false)
  | "boolean" => some (onValue (·.kind == .bool))
  | "odd" => some (onValue (·.asSigned?.any (· % 2 != 0)))
  | "even" => some (onValue (·.asSigned?.any (· % 2 == 0)))
  | "number" => some (onValue (·.kind == .number))
  | "integer" | "int" => some (onValue fun | .integer .. => true | _ => false)
  | "float" => some (onValue fun | .float _ => true | _ => false)
  | "string" => some (onValue (·.kind == .string))
  | "sequence" => some (onValue (·.kind == .sequence))
  | "iterable" => some (onValue (·.items?.isSome))
  | "mapping" => some (onValue (·.kind == .map))
  | "startingwith" => some do
    let s ← text
    return (← text).toList.isPrefixOf s.toList
  | "endingwith" => some do
    let s ← text
    return (← text).toList.isSuffixOf s.toList
  | "lower" => some do return isLowerText (← exactText)
  | "upper" => some do return isUpperText (← exactText)
  | "sameas" => some (onValues (identical false))
  | "divisibleby" => some (onValues divisible)
  | "eq" | "equalto" | "==" => some (onValues Value.same)
  | "ne" | "!=" => some (onValues fun a b => !a.same b)
  | "lt" | "lessthan" | "<" => some (comparing (· == .lt))
  | "le" | "<=" => some (comparing (· != .gt))
  | "gt" | "greaterthan" | ">" => some (comparing (· == .gt))
  | "ge" | ">=" => some (comparing (· != .lt))
  | "in" => some containing
  | "true" => some (onValue fun | .bool b => b | _ => false)
  | "false" => some (onValue fun | .bool b => !b | _ => false)
  | "filter" => some do return filterNames.contains (← exactText)
  | "test" => some do return testNames.contains (← exactText)
  | _ => none

/-- Whether a value passes the test of a name with further values. -/
def passes (name : String) (args : List Value) : Except Error Bool :=
  match test? name with
  | some t => t.run args
  | none => throw (.of .unknownTest s!"test {name} is unknown")

end EntityForge.Template
