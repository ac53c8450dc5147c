/-!
# Errors of templates

A template fails to load or to render for one of some kinds of reason, mostly with a detail. An
error knows the template and the line where it arose once it has passed through a place that has
one, and an error in an included template is the cause of the error of the inclusion.
-/

namespace EntityForge.Template

/-- The kind of reason for which a template fails. -/
inductive ErrorKind
  /-- An operation does not apply to its operands. -/
  | invalidOperation
  /-- The text is no template. -/
  | syntaxError
  /-- There is no template of a name. -/
  | templateNotFound
  /-- A call has too many arguments. -/
  | tooManyArguments
  /-- A call lacks an argument. -/
  | missingArgument
  /-- There is no filter of a name. -/
  | unknownFilter
  /-- There is no function of a name. -/
  | unknownFunction
  /-- There is no test of a name. -/
  | unknownTest
  /-- A value has no method of a name. -/
  | unknownMethod
  /-- An escape in a text is invalid. -/
  | badEscape
  /-- An undefined value is used. -/
  | undefinedError
  /-- An included template fails. -/
  | badInclude
  /-- A block fails. -/
  | evalBlock
  /-- A value cannot be taken apart. -/
  | cannotUnpack
  /-- There is no block of a name. -/
  | unknownBlock
  deriving DecidableEq, Repr

namespace ErrorKind

/-- The name of a kind. -/
def name : ErrorKind → String
  | invalidOperation => "InvalidOperation"
  | syntaxError => "SyntaxError"
  | templateNotFound => "TemplateNotFound"
  | tooManyArguments => "TooManyArguments"
  | missingArgument => "MissingArgument"
  | unknownFilter => "UnknownFilter"
  | unknownFunction => "UnknownFunction"
  | unknownTest => "UnknownTest"
  | unknownMethod => "UnknownMethod"
  | badEscape => "BadEscape"
  | undefinedError => "UndefinedError"
  | badInclude => "BadInclude"
  | evalBlock => "EvalBlock"
  | cannotUnpack => "CannotUnpack"
  | unknownBlock => "UnknownBlock"

/-- A kind in words. -/
def words : ErrorKind → String
  | invalidOperation => "invalid operation"
  | syntaxError => "syntax error"
  | templateNotFound => "template not found"
  | tooManyArguments => "too many arguments"
  | missingArgument => "missing argument"
  | unknownFilter => "unknown filter"
  | unknownFunction => "unknown function"
  | unknownTest => "unknown test"
  | unknownMethod => "unknown method"
  | badEscape => "bad string escape"
  | undefinedError => "undefined value"
  | badInclude => "could not render include"
  | evalBlock => "could not render block"
  | cannotUnpack => "cannot unpack"
  | unknownBlock => "unknown block"

end ErrorKind

/-- An error of a template. -/
structure Error where
  /-- The kind. -/
  kind : ErrorKind
  /-- What exactly is wrong. -/
  detail : Option String := none
  /-- The template and the line where it arose. -/
  place : Option (String × Nat) := none
  /-- The errors behind this one, the nearest first, by their wording. -/
  behind : List String := []
  deriving DecidableEq, Repr

namespace Error

/-- The wording of an error. -/
def message (e : Error) : String :=
  e.kind.words ++ (e.detail.elim "" (": " ++ ·)) ++
    (e.place.elim "" fun (name, line) => s!" (in {name}:{line})")

/-- The wording of an error and of those behind it, one after another. -/
def chain (e : Error) : List String :=
  e.message :: e.behind

/-- The error, placed unless it has a place. -/
def placedAt (e : Error) (name : String) (line : Nat) : Error :=
  { e with place := e.place.or (some (name, line)) }

/-- An error of a kind with a detail. -/
def of (kind : ErrorKind) (detail : String) : Error :=
  { kind, detail := some detail }

/-- An operation that does not apply. -/
def invalid (detail : String) : Error :=
  of .invalidOperation detail

/-- A text that is no template. -/
def badText (detail : String) : Error :=
  of .syntaxError detail

/-- The use of an undefined value. -/
def undefinedValue : Error :=
  { kind := .undefinedError }

end Error

end EntityForge.Template
