/-!
# Templates as trees

A template is a list of nodes. Some nodes stand for their own text, some for the text of an
expression, the others choose, repeat, name or fetch text. An expression, a target or a node carries
a line: at first the line where it starts, later the line to which its failure belongs.
-/

namespace EntityForge.Template

/-- An operator with one operand. -/
inductive UnaryOp
  /-- The negated number. -/
  | negate
  /-- The opposite truth. -/
  | not
  deriving DecidableEq

/-- An operator with two operands. -/
inductive BinaryOp
  /-- The second operand if the first holds, else the first. -/
  | and
  /-- The first operand if it holds, else the second. -/
  | or
  /-- Equality. -/
  | eq
  /-- Inequality. -/
  | ne
  /-- Being less. -/
  | lt
  /-- Being less or equal. -/
  | le
  /-- Being greater. -/
  | gt
  /-- Being greater or equal. -/
  | ge
  /-- Being contained. -/
  | contained
  /-- The sum. -/
  | add
  /-- The difference. -/
  | sub
  /-- The two texts one after the other. -/
  | concat
  /-- The product. -/
  | mul
  /-- The quotient. -/
  | div
  /-- The whole part of the quotient. -/
  | floorDiv
  /-- The remainder. -/
  | rem
  /-- The power. -/
  | pow
  deriving DecidableEq

/-- A value that is written out in a template. -/
inductive Literal
  /-- The absent value. -/
  | none
  /-- A truth value. -/
  | bool (b : Bool)
  /-- An integer. -/
  | integer (n : Nat)
  /-- A double. -/
  | float (x : Float)
  /-- A text. -/
  | text (s : String)

mutual

/-- An expression. -/
inductive Expr
  /-- A value that is written out. -/
  | literal (v : Literal)
  /-- The value of a name. -/
  | var (name : String)
  /-- A list. -/
  | list (items : List Expr)
  /-- A map. -/
  | dict (pairs : List (Expr × Expr))
  /-- An operator before its operand. -/
  | unary (op : UnaryOp) (e : Expr)
  /-- An operator between its operands. -/
  | binary (op : BinaryOp) (a b : Expr)
  /-- Comparisons of neighbours, all of which have to hold. -/
  | compared (first : Expr) (others : List Link)
  /-- One of two expressions; without the second, possibly nothing. -/
  | choice (condition yes : Expr) (no : Option Expr)
  /-- The member of a name. -/
  | member (e : Expr) (name : String)
  /-- The item at a key. -/
  | item (e key : Expr)
  /-- The items from one index to another by steps. -/
  | slice (e : Expr) (start stop step : Option Expr)
  /-- A filter applied to a value. -/
  | filter (name : String) (e : Expr) (args : List Arg)
  /-- Whether a value passes a test. -/
  | test (name : String) (e : Expr) (args : List Arg)
  /-- A call. -/
  | call (callee : Expr) (args : List Arg)
  /-- The text that the enclosing node has captured. -/
  | captured
  /-- An expression at a line. -/
  | located (line : Nat) (e : Expr)

/-- A comparison with the expression before it. -/
inductive Link
  /-- The operator, whether the comparison has to fail, and the expression. -/
  | mk (op : BinaryOp) (negated : Bool) (e : Expr)

/-- An argument of a call. -/
inductive Arg
  /-- A value in its place. -/
  | inPlace (e : Expr)
  /-- A value with a name. -/
  | named (name : String) (e : Expr)
  /-- The items of a list, each in its place. -/
  | spread (e : Expr)
  /-- The members of a map, each with its name. -/
  | spreadNamed (e : Expr)

end

namespace Expr

/-- An expression without its line. -/
def bare : Expr → Expr
  | located _ e => e.bare
  | e => e

/-- The line of an expression, or another one if it has none. -/
def lineOr (e : Expr) (line : Nat) : Nat :=
  match e with
  | located own _ => own
  | _ => line

/-- Whether an expression is called by its name alone, or as a block of the template. -/
def isCalledByName (e : Expr) : Bool :=
  match e.bare with
  | .var _ => true
  | .member owner _ => match owner.bare with
    | .var name => name == "self"
    | _ => false
  | _ => false

end Expr

/-- Whether an argument has a name. -/
def Arg.hasName : Arg → Bool
  | .named .. | .spreadNamed _ => true
  | _ => false

/-- What a value is assigned to. -/
inductive Target
  /-- A name. -/
  | var (name : String)
  /-- A member of a name space. -/
  | member (owner : Expr) (name : String)
  /-- One target for each item. -/
  | list (targets : List Target)
  /-- A target at a line. -/
  | located (line : Nat) (target : Target)

mutual

/-- A node of a template. -/
inductive Node
  /-- Text. -/
  | text (s : String)
  /-- The text of an expression. -/
  | emit (e : Expr)
  /-- One of two bodies. -/
  | choice (condition : Expr) (yes no : List Node)
  /-- A body for each item that passes the condition, or another body if there is none. -/
  | loop (target : Target) (items : Expr) (condition : Option Expr) (recursive : Bool)
      (body orElse : List Node)
  /-- An assignment. -/
  | assign (target : Target) (e : Expr)
  /-- The assignment of the text of a body, passed through filters. -/
  | assignText (target : Target) (filter : Option Expr) (body : List Node)
  /-- A body with names of its own. -/
  | scope (assignments : List (Target × Expr)) (body : List Node)
  /-- A body whose text passes through filters. -/
  | filtered (filter : Expr) (body : List Node)
  /-- A body with its own rule for the escaping of values. -/
  | escaped (rule : Expr) (body : List Node)
  /-- A body that a template which extends this one can replace, or has to. -/
  | block (name : String) (required : Bool) (body : List Node)
  /-- The template that this one extends. -/
  | extend (e : Expr)
  /-- The text of another template. -/
  | embed (e : Expr) (ignoreMissing : Bool)
  /-- The names of another template, as one value. -/
  | importAll (e : Expr) (target : Target)
  /-- Some names of another template, with the names they get here. -/
  | importNames (e : Expr) (names : List (String × String))
  /-- A routine. -/
  | define (r : Routine)
  /-- The text of a call that receives a routine. -/
  | callWith (call : Expr) (r : Routine)
  /-- A call for its effect. -/
  | perform (call : Expr)
  /-- A node at a line. -/
  | located (line : Nat) (node : Node)

/-- A body with parameters. -/
inductive Routine
  /-- The name, the parameters with their defaults, whether the body asks for the routine of a call,
  and the body. -/
  | mk (name : String) (params : List (String × Option Expr)) (asksCaller : Bool)
      (body : List Node)

end

namespace Routine

/-- The name of a routine. -/
def name : Routine → String
  | mk name _ _ _ => name

/-- The parameters of a routine, with their defaults. -/
def params : Routine → List (String × Option Expr)
  | mk _ params _ _ => params

/-- Whether the body of a routine asks for the routine of a call. -/
def asksCaller : Routine → Bool
  | mk _ _ asks _ => asks

/-- The body of a routine. -/
def body : Routine → List Node
  | mk _ _ _ body => body

end Routine

/-- A body that stands for a block. -/
structure Block where
  /-- The name of the block. -/
  name : String
  /-- Whether the body has to be replaced. -/
  required : Bool
  /-- The body. -/
  body : List Node

mutual

/-- The blocks of a node, with those inside of them. -/
def Node.blocks : Node → List Block
  | .block name required body => ⟨name, required, body⟩ :: blocksOf body
  | .choice _ yes no => blocksOf yes ++ blocksOf no
  | .loop _ _ _ _ body orElse => blocksOf body ++ blocksOf orElse
  | .assignText _ _ body | .scope _ body | .filtered _ body | .escaped _ body => blocksOf body
  | .located _ node => node.blocks
  | _ => []

/-- The blocks of some nodes, with those inside of them. -/
def blocksOf : List Node → List Block
  | [] => []
  | node :: rest => node.blocks ++ blocksOf rest

end

/-- A template that has been read. -/
structure Parsed where
  /-- The name of the template. -/
  name : String
  /-- The nodes of the template. -/
  nodes : List Node

end EntityForge.Template
