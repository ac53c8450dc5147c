import EntityForge.Template.Operator

/-!
# Arguments of calls

A filter, a test or a function takes its arguments from the left, each in the form it needs. An
argument that is no value at all is refused wherever a value is needed. The arguments that a call
names come as one last value, which is taken before the others.
-/

namespace EntityForge.Template

/-- A step that takes arguments. -/
abbrev Taking := StateT (List Value) (Except Error)

namespace Taking

/-! ### Forms of values -/

/-- A value that has no form of a kind. -/
def misfit (v : Value) (form : String) : Error :=
  .invalid s!"cannot convert {v.kind.words} to {form}"

/-- The forms of integers. -/
inductive IntegerForm
  /-- A number of things. -/
  | usize
  /-- A distance. -/
  | isize
  /-- 64 bits with a sign. -/
  | i64
  /-- 32 bits with a sign. -/
  | i32
  deriving DecidableEq

namespace IntegerForm

/-- The name of a form. -/
def name : IntegerForm → String
  | usize => "usize"
  | isize => "isize"
  | i64 => "i64"
  | i32 => "i32"

/-- Whether an integer has a form. -/
def admits : IntegerForm → Int → Bool
  | usize, n => 0 ≤ n && n < Word.count 64
  | isize, n | i64, n => decide (Word.Signed 63 n)
  | i32, n => decide (Word.Signed 31 n)

end IntegerForm

/-- A value as an integer of a form. -/
def asInteger (form : IntegerForm) (v : Value) : Except Error Int :=
  match v.asSigned? with
  | some n => if form.admits n then return n else throw (misfit v form.name)
  | none => throw (misfit v form.name)

/-- A value as a text. -/
def asText (v : Value) : Except Error String :=
  match v with
  | .named _ => throw (.invalid "cannot convert kwargs to string")
  | _ => return v.shown

/-- A value that has to be a text already. -/
def asExactText (v : Value) : Except Error String :=
  match v with
  | .text s _ => return s
  | _ => throw (.invalid "value is not a string")

/-- A value as a truth value. -/
def asTruth (v : Value) : Except Error Bool :=
  match v with
  | .bool b => return b
  | _ => throw (misfit v "bool")

/-! ### Taking arguments -/

/-- The next argument, whatever it is. -/
def any : Taking Value := do
  match ← get with
  | [] => throw { kind := .missingArgument }
  | v :: rest =>
    set rest
    return v

/-- The next argument, which has to be a value. -/
def value : Taking Value := do
  let v ← any
  if v.isUndefined then throw .undefinedValue
  return v

/-- The next argument, if there is one other than the absent value. -/
def value? : Taking (Option Value) := do
  if (← get).isEmpty then return none
  match ← value with
  | .none => return none
  | v => return some v

/-- The next argument in a form. -/
def inForm {α : Type} (form : Value → Except Error α) : Taking α := do
  (form (← value) : Except Error α)

/-- The next argument in a form, if there is one. -/
def inForm? {α : Type} (form : Value → Except Error α) : Taking (Option α) := do
  (← value?).mapM fun v => (form v : Except Error α)

/-- The next argument as a text. -/
def text : Taking String := inForm asText

/-- The next argument as a text, if there is one. -/
def text? : Taking (Option String) := inForm? asText

/-- The next argument, which has to be a text already. -/
def exactText : Taking String := inForm asExactText

/-- The next argument as a count. -/
def count : Taking Nat := Int.toNat <$> inForm (asInteger .usize)

/-- The arguments that the call names. -/
def named : Taking (List (String × Value)) := do
  let args ← get
  match args.getLast? with
  | some (.named pairs) =>
    set args.dropLast
    return pairs
  | _ => return []

/-- All arguments that are left. -/
def rest : Taking (List Value) := do
  let args ← get
  set ([] : List Value)
  return args

/-- The result of a step that has to take all arguments. -/
def run {α : Type} (step : Taking α) (args : List Value) : Except Error α := do
  let (a, left) ← StateT.run step args
  if left.isEmpty then return a else throw { kind := .tooManyArguments }

/-! ### Named arguments -/

/-- The named argument of a name, unless it is absent. -/
def lookup? (pairs : List (String × Value)) (name : String) : Option Value :=
  (pairs.lookup name).filter fun v => !v.isUndefined && v.kind != .none

/-- The named argument of a name in a form, unless it is absent. -/
def option? {α : Type} (pairs : List (String × Value)) (name : String)
    (form : Value → Except Error α) : Except Error (Option α) :=
  (lookup? pairs name).mapM form

/-- Whether a named argument is set. -/
def flag (pairs : List (String × Value)) (name : String) : Except Error Bool := do
  return (← option? pairs name asTruth).getD false

/-- Refuses named arguments other than some. -/
def onlyNamed (pairs : List (String × Value)) (names : List String) : Except Error Unit :=
  match pairs.find? fun (name, _) => !names.contains name with
  | some (name, _) => throw (.of .tooManyArguments s!"unknown keyword argument '{name}'")
  | none => return ()

end Taking

end EntityForge.Template
