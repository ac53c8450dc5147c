import EntityForge.Template.Expression

/-!
# Lines of failures

A failure while a template is rendered belongs to a line, but not always to the line where the
failed expression or node starts. The expressions of a node are gone through in the order in which
they are evaluated, and most of them move to the line where they start; a failure belongs to the
line that is reached when it happens, which for an operator or a call is the line of its last
operand or argument. A constant list or map moves nowhere.

Each expression is given the line that is reached behind it. That is the line of its own failure,
and also the line of a failure to use its value: to print it, to go through it or to take it for a
truth value.
-/

namespace EntityForge.Template

/-! ### Constants -/

mutual

/-- Whether an expression is a literal or made of literals. -/
def Expr.isConstant : Expr → Bool
  | .literal _ => true
  | .list items => allConstant items
  | .dict pairs => allConstantPairs pairs
  | .located _ e => e.isConstant
  | _ => false

/-- Whether all expressions are constant. -/
def allConstant : List Expr → Bool
  | [] => true
  | e :: rest => e.isConstant && allConstant rest

/-- Whether all members are constant. -/
def allConstantPairs : List (Expr × Expr) → Bool
  | [] => true
  | (key, e) :: rest => key.isConstant && e.isConstant && allConstantPairs rest

end

/-- Whether an argument with a name is a literal. -/
def Arg.isFixed : Arg → Bool
  | .named _ e => match e.bare with
    | .literal _ => true
    | _ => false
  | .spreadNamed _ => false
  | _ => true

/-- A step that knows the line that is reached. -/
abbrev Placing := StateM Nat

namespace Placing

/-- An expression at the line that is reached. -/
def here (e : Expr) : Placing Expr := do
  return .located (← get) e

/-! ### Expressions -/

mutual

/-- An expression that starts on a line, at the line that is reached behind it. -/
def expr (line : Nat) : Expr → Placing Expr
  | .located own e => expr own e
  | .literal v => do
    set line
    here (.literal v)
  | .var name => do
    set line
    here (.var name)
  | .list items => do
    if allConstant items then here (.list items)
    else
      set line
      let items ← exprs line items
      here (.list items)
  | .dict pairs => do
    if allConstantPairs pairs then here (.dict pairs)
    else
      set line
      let pairs ← members line pairs
      here (.dict pairs)
  | .unary op e => do
    set line
    let e ← expr line e
    match op with
    | .not => here (.unary .not e)
    | .negate => here (.located line (.unary .negate e))
  | .binary op a b => do
    set line
    let a ← expr line a
    let b ← expr line b
    here (.binary op a b)
  | .compared first others => do
    set line
    let first ← expr line first
    let others ← links line others
    here (.compared first others)
  | .choice condition yes no => do
    set line
    let condition ← expr line condition
    let yes ← expr line yes
    let no ← optional line no
    here (.choice condition yes no)
  | .member e name => do
    set line
    let e ← expr line e
    here (.member e name)
  | .item e key => do
    set line
    let e ← expr line e
    let key ← expr line key
    here (.item e key)
  | .slice e start stop step => do
    set line
    let e ← expr line e
    let start ← optional line start
    let stop ← optional line stop
    let step ← optional line step
    here (.slice e start stop step)
  | .filter name e args => do
    set line
    let e ← expr line e
    let args ← arguments line (args.all Arg.isFixed) args
    here (.filter name e args)
  | .test name e args => do
    set line
    let e ← expr line e
    let args ← arguments line (args.all Arg.isFixed) args
    here (.test name e args)
  | .call callee args => do
    set line
    let callee ← if callee.isCalledByName then pure callee else expr line callee
    let args ← arguments line (args.all Arg.isFixed) args
    here (.call callee args)
  | .captured => here .captured

/-- Expressions, one after another. -/
def exprs (line : Nat) : List Expr → Placing (List Expr)
  | [] => return []
  | e :: rest => do
    let e ← expr line e
    return e :: (← exprs line rest)

/-- The members of a map, one after another. -/
def members (line : Nat) : List (Expr × Expr) → Placing (List (Expr × Expr))
  | [] => return []
  | (key, e) :: rest => do
    let key ← expr line key
    let e ← expr line e
    return (key, e) :: (← members line rest)

/-- Comparisons, one after another. -/
def links (line : Nat) : List Link → Placing (List Link)
  | [] => return []
  | .mk op negated e :: rest => do
    let e ← expr line e
    return .mk op negated e :: (← links line rest)

/-- An expression that may be absent. -/
def optional (line : Nat) : Option Expr → Placing (Option Expr)
  | none => return none
  | some e => return some (← expr line e)

/-- Arguments, one after another; those with names are left alone if they are fixed. -/
def arguments (line : Nat) (fixed : Bool) : List Arg → Placing (List Arg)
  | [] => return []
  | arg :: rest => do
    let arg ← match arg with
      | .inPlace e => Arg.inPlace <$> expr line e
      | .spread e => Arg.spread <$> expr line e
      | .named name e => if fixed then pure (.named name e) else Arg.named name <$> expr line e
      | .spreadNamed e => Arg.spreadNamed <$> expr line e
    return arg :: (← arguments line fixed rest)

end

/-! ### Targets and parameters -/

mutual

/-- A target that starts on a line. -/
def target (line : Nat) : Target → Placing Target
  | .located own t => target own t
  | .var name => return .var name
  | .member owner name => do
    set line
    let owner ← expr line owner
    return .located (← get) (.member owner name)
  | .list ts => do
    set line
    return .located line (.list (← targets line ts))

/-- Targets, one after another. -/
def targets (line : Nat) : List Target → Placing (List Target)
  | [] => return []
  | t :: rest => do
    let t ← target line t
    return t :: (← targets line rest)

end

/-- Assignments, one after another. -/
def assignments (line : Nat) : List (Target × Expr) → Placing (List (Target × Expr))
  | [] => return []
  | (t, e) :: rest => do
    let e ← expr line e
    let t ← target line t
    return (t, e) :: (← assignments line rest)

/-- The defaults of parameters, the last one first. -/
def defaults (line : Nat) :
    List (String × Option Expr) → Placing (List (String × Option Expr))
  | [] => return []
  | (name, default) :: rest => do
    let rest ← defaults line rest
    let default ← optional line default
    return (name, default) :: rest

/-- An expression that a node prints. -/
def emitted (line : Nat) (e : Expr) : Placing Expr := do
  match e.bare with
  | .call callee args =>
    match callee.bare, args with
    | .var "super", [] => return .located (e.lineOr line) (.call callee [])
    | .var "loop", [arg] => here (.call callee (← arguments line false [arg]))
    | .member _ _, _ =>
      if callee.isCalledByName then here (.call callee args) else expr line e
    | _, _ => expr line e
  | _ => expr line e

/-! ### Nodes -/

mutual

/-- A node that starts on a line. -/
def node (line : Nat) : Node → Placing Node
  | .located own n => node own n
  | .text s => do
    set line
    return .text s
  | .emit e => do
    set line
    let e ← emitted line e
    return .emit e
  | .choice condition yes no => do
    set (condition.lineOr line)
    let condition ← expr line condition
    let yes ← nodes line yes
    let no ← nodes line no
    return .choice condition yes no
  | .loop t items condition recursive body orElse => do
    set (condition.elim line (·.lineOr line))
    let items ← expr line items
    let t ← target line t
    let condition ← optional line condition
    let t ← if condition.isSome then target line t else pure t
    let body ← nodes line body
    let orElse ← nodes line orElse
    return .located (items.lineOr line) (.loop t items condition recursive body orElse)
  | .assign t e => do
    set line
    let e ← expr line e
    let t ← target line t
    return .assign t e
  | .assignText t filter body => do
    set line
    let body ← nodes line body
    let filter ← optional line filter
    let t ← target line t
    return .assignText t filter body
  | .scope given body => do
    set line
    let given ← assignments line given
    let body ← nodes line body
    return .located line (.scope given body)
  | .filtered filter body => do
    set line
    let body ← nodes line body
    let filter ← expr line filter
    return .filtered filter body
  | .escaped rule body => do
    set line
    let rule ← expr line rule
    let body ← nodes line body
    return .escaped rule body
  | .block name required body => do
    set line
    let body ← nodes line body
    set line
    return .located line (.block name required body)
  | .extend e => do
    set line
    let e ← expr line e
    return .located line (.extend e)
  | .embed e ignoreMissing => do
    set line
    let e ← expr line e
    return .located line (.embed e ignoreMissing)
  | .importAll e t => do
    let e ← expr line e
    let t ← target line t
    return .located line (.importAll e t)
  | .importNames e names => do
    let e ← expr line e
    return .located line (.importNames e names)
  | .define r => do
    let r ← routine line r
    return .located line (.define r)
  | .callWith e r => do
    set line
    match e.bare with
    | .call callee args =>
      let own := e.lineOr line
      set own
      let callee ← if callee.isCalledByName then pure callee else expr own callee
      let args ← arguments own false args
      let r ← routine line r
      return .callWith (← here (.call callee args)) r
    | _ => return .callWith e r
  | .perform e => do
    set line
    let e ← expr line e
    return .perform e

/-- Nodes, one after another. -/
def nodes (line : Nat) : List Node → Placing (List Node)
  | [] => return []
  | n :: rest => do
    let n ← node line n
    return n :: (← nodes line rest)

/-- A routine that starts on a line. -/
def routine (line : Nat) : Routine → Placing Routine
  | .mk name params asks body => do
    set line
    let params ← defaults line params
    let body ← nodes line body
    return .mk name params asks body

end

end Placing

/-- The nodes of a template, with the lines of their failures. -/
def placedNodes (nodes : List Node) : List Node :=
  ((Placing.nodes 1 nodes).run 1).run.1

end EntityForge.Template
