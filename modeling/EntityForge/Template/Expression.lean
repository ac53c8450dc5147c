import EntityForge.Template.Node
import EntityForge.Template.Token

/-!
# Expressions of templates

An expression is read from tokens, one layer of operators inside the other: the choice binds
loosest, then come `or`, `and`, `not`, the comparisons, sum and difference, the joining of texts,
products, powers and the sign. Members, items and calls bind closest, and filters and tests apply to
what stands before them. Each expression carries the line on which it starts; an operator between
two operands starts where the first of them does, a filter or a test at its name.

Each layer takes the reader of the layer inside it, and the reader of whole expressions for what
stands in brackets, so that only `expr` refers to itself, once for each level of nesting. Whole
expressions, values and statements inside each other are counted, and no more than `maxDepth` of
them are read.
-/

namespace EntityForge.Template

/-! ### Tokens that are left -/

/-- The tokens that are left. -/
structure Stream where
  /-- The name of the template. -/
  name : String
  /-- The tokens. -/
  rest : List Placed
  /-- The line of the token that was taken last. -/
  line : Nat := 1
  /-- No more than this number of tokens are left. -/
  bound : Nat := rest.length
  /-- The names of the blocks so far. -/
  blocks : List String := []
  /-- How many expressions, values and statements the place stands in. -/
  depth : Nat := 0
  /-- Whether the routine of a call has been asked for. -/
  asksCaller : Bool := false
  /-- Whether the place stands in a routine. -/
  inRoutine : Bool := false

/-- A step that takes tokens. -/
abbrev Reading := StateT Stream (Except Error)

namespace Reading

/-- Failure at the token that was taken last. -/
def fail {α : Type} (e : Error) : Reading α := do
  let s ← get
  throw (e.placedAt s.name s.line)

/-- Failure at a token that was not expected. -/
def unexpected {α : Type} (found expected : String) : Reading α :=
  fail (.badText s!"unexpected {found}, expected {expected}")

/-- The next token, if there is one, left in its place. -/
def peek : Reading (Option Token) := do
  let s ← get
  match s.rest with
  | [] => return none
  | ⟨.fault e, line⟩ :: _ =>
    if e.kind = .badEscape then fail e else throw (e.placedAt s.name line)
  | ⟨t, _⟩ :: _ => return some t

/-- The next token, if there is one, taken. -/
def next : Reading (Option Token) := do
  let t ← peek
  modify fun s =>
    match s.rest with
    | [] => s
    | p :: rest => { s with rest, line := p.line }
  return t

/-- The line of the next token. -/
def nextLine : Reading Nat := do
  let s ← get
  return (s.rest.head?.map (·.line)).getD s.line

/-- Whether the next token is of a kind; it is taken if so. -/
def skip (p : Token → Bool) : Reading Bool := do
  let t ← peek
  if t.any p then
    discard next
    return true
  return false

/-- Whether the next token is a sign; it is taken if so. -/
def skipSign (s : String) : Reading Bool := skip (·.isSign s)

/-- Whether the next token is a word; it is taken if so. -/
def skipWord (s : String) : Reading Bool := skip (·.isWord s)

/-- The next token, which has to be of a kind. -/
def expect {α : Type} (words : String) (f : Token → Option α) : Reading α := do
  match ← next with
  | none => unexpected "end of input" words
  | some t =>
    match f t with
    | some a => return a
    | none => unexpected t.words words

/-- Takes a sign. -/
def expectSign (s : String) : Reading Unit :=
  expect ("`" ++ s ++ "`") fun t => if t.isSign s then some () else none

/-- Takes a word. -/
def expectWord (s : String) (words : String := s) : Reading Unit :=
  expect words fun t => if t.isWord s then some () else none

/-- Takes a name. -/
def expectName : Reading String :=
  expect "identifier" fun
    | .ident name => some name
    | _ => none

/-- Takes the end of a statement. -/
def expectEnd : Reading Unit :=
  expect "end of block" fun
    | .statementEnd => some ()
    | _ => none

/-- An expression at a line. -/
def located (line : Nat) (e : Expr) : Expr := .located line e

/-- The greatest depth of expressions, values and statements. -/
def maxDepth : Nat := 150

/-- Failure beyond the greatest depth. -/
def tooDeep {α : Type} : Reading α :=
  fail (.badText "template exceeds maximum recursion limits")

/-- A step one level deeper. -/
def deeper {α : Type} (step : Reading α) : Reading α := do
  let depth := (← get).depth
  if maxDepth ≤ depth then tooDeep
  modify fun s => { s with depth := depth + 1 }
  let a ← step
  modify fun s => { s with depth }
  return a

/-- Items up to a closing sign, with commas between them and possibly behind the last. -/
def listUpTo {α : Type} (close : String) (item : List α → Reading α) :
    Nat → List α → Reading (List α)
  | 0, done => return done.reverse
  | n + 1, done => do
    if ← skipSign close then return done.reverse
    unless done.isEmpty do
      expectSign ","
      if ← skipSign close then return done.reverse
    let a ← item done.reverse
    listUpTo close item n (a :: done)

/-- Operators of one layer, from the left. -/
def chain (operand : Reading Expr) (op? : Token → Option BinaryOp) (line : Nat) :
    Nat → Expr → Reading Expr
  | 0, e => return e
  | n + 1, e => do
    match (← peek).bind op? with
    | none => return e
    | some op =>
      discard next
      let b ← operand
      chain operand op? line n (located line (.binary op e b))

/-- One layer of operators. -/
def layer (operand : Reading Expr) (op? : Token → Option BinaryOp) : Reading Expr := do
  let line ← nextLine
  let e ← operand
  chain operand op? line (← get).bound e

/-! ### Arguments -/

/-- The greatest number of arguments. -/
def maxArguments : Nat := 2000

/-- An argument, after others. -/
def argument (nested : Reading Expr) (before : List Arg) : Reading Arg := do
  if maxArguments < before.length then fail (.badText "Too many arguments in function call")
  if ← skipSign "**" then return .spreadNamed (← nested)
  if ← skipSign "*" then return .spread (← nested)
  match ← nested with
  | .located line (.var name) =>
    if ← skipSign "=" then return .named name (← nested)
    if before.any Arg.hasName then fail (.badText "non-keyword arg after keyword arg")
    return .inPlace (.located line (.var name))
  | e =>
    if before.any Arg.hasName then fail (.badText "non-keyword arg after keyword arg")
    return .inPlace e

/-- The arguments of a call, those with names behind the others. -/
def arguments (nested : Reading Expr) : Reading (List Arg) := do
  expectSign "("
  let args ← listUpTo ")" (argument nested) (← get).bound []
  return args.filter (!·.hasName) ++ args.filter Arg.hasName

/-- The arguments of a filter or a test, which may lack brackets. -/
def optionalArguments (nested : Reading Expr) : Reading (List Arg) := do
  if (← peek).any (·.isSign "(") then arguments nested else return []

/-! ### Values and what follows them -/

/-- A member of a map. -/
def pair (nested : Reading Expr) : Reading (Expr × Expr) := do
  let key ← nested
  expectSign ":"
  return (key, ← nested)

/-- An expression in brackets, or several of them as a list. -/
def bracketed (nested : Reading Expr) (line : Nat) : Reading Expr := do
  if ← skipSign ")" then return located line (.list [])
  let e ← nested
  if (← peek).any (·.isSign ",") then
    discard next
    let rest ← listUpTo ")" (fun _ => nested) (← get).bound []
    return located line (.list (e :: rest))
  expectSign ")"
  return e

/-- The quoted texts that follow a quoted text, joined to it. -/
def joinedTexts : Nat → String → Reading String
  | 0, s => return s
  | n + 1, s => do
    match ← peek with
    | some (.text t) =>
      discard next
      joinedTexts n (s ++ t)
    | _ => return s

/-- The expression of a word. -/
def word (name : String) : Reading Expr := do
  if name = "true" ∨ name = "True" then return .literal (.bool true)
  if name = "false" ∨ name = "False" then return .literal (.bool false)
  if name = "none" ∨ name = "None" then return .literal .none
  if name = "caller" then modify fun s => { s with asksCaller := true }
  return .var name

/-- A value. -/
def primary (nested : Reading Expr) : Reading Expr :=
  deeper do
    let token ← next
    let s ← get
    let place := located s.line
    match token with
    | none => unexpected "end of input" "expression"
    | some (.ident name) => return place (← word name)
    | some (.text t) => return place (.literal (.text (← joinedTexts s.bound t)))
    | some (.integer n) => return place (.literal (.integer n))
    | some (.float x) => return place (.literal (.float x))
    | some (.sign "(") => bracketed nested s.line
    | some (.sign "[") => return place (.list (← listUpTo "]" (fun _ => nested) s.bound []))
    | some (.sign "\x7b") =>
      return place (.dict (← listUpTo "\x7d" (fun _ => pair nested) s.bound []))
    | some t => fail (.badText s!"unexpected {t.words}")

/-- A value with signs before it. -/
def signed (nested : Reading Expr) : Nat → Reading Expr
  | 0 => primary nested
  | n + 1 => do
    let line ← nextLine
    if ← skipSign "-" then return located line (.unary .negate (← signed nested n))
    primary nested

/-- An expression, unless a sign that ends it comes next. -/
def unlessNext (ends : List String) (nested : Reading Expr) : Reading (Option Expr) := do
  let t ← peek
  if ends.any fun s => t.any (·.isSign s) then return none
  return some (← nested)

/-- What stands in square brackets behind a value. -/
def subscript (nested : Reading Expr) (line : Nat) (e : Expr) : Reading Expr := do
  let start ← unlessNext [":"] nested
  if ← skipSign ":" then
    let stop ← unlessNext ["]", ":"] nested
    let step ← if ← skipSign ":" then unlessNext ["]"] nested else pure none
    expectSign "]"
    return located line (.slice e start stop step)
  expectSign "]"
  match start with
  | some key => return located line (.item e key)
  | none => fail (.badText "empty subscript")

/-- The member or the item behind a point. -/
def pointed (line : Nat) (e : Expr) : Reading Expr := do
  match ← next with
  | some (.ident name) => return located line (.member e name)
  | some (.integer k) =>
    return located line (.item e (located (← get).line (.literal (.integer k))))
  | some t => unexpected t.words "identifier or integer"
  | none => unexpected "end of input" "identifier or integer"

/-- Members, items and calls behind a value. -/
def postfixes (nested : Reading Expr) : Nat → Nat → Expr → Reading Expr
  | 0, _, e => return e
  | n + 1, line, e => do
    let following ← nextLine
    match ← peek with
    | some (.sign ".") =>
      discard next
      postfixes nested n following (← pointed line e)
    | some (.sign "[") =>
      discard next
      postfixes nested n following (← subscript nested line e)
    | some (.sign "(") =>
      let args ← arguments nested
      postfixes nested n following (located line (.call e args))
    | _ => return e

/-- A value with signs before it and with what follows it. -/
def operand (nested : Reading Expr) : Reading Expr := do
  let s ← get
  let line ← nextLine
  let e ← signed nested s.bound
  postfixes nested s.bound line e

/-- Whether a token starts the argument of a test that has no brackets. -/
def startsArgument : Token → Bool
  | .ident name => !(["and", "or", "else", "is"].contains name)
  | .text _ | .integer _ | .float _ => true
  | .sign s => ["+", "-", "[", "\x7b"].contains s
  | _ => false

/-- Filters and tests behind a value. -/
def filters (nested : Reading Expr) : Nat → Expr → Reading Expr
  | 0, e => return e
  | n + 1, e => do
    if ← skipSign "|" then
      let name ← expectName
      let line := (← get).line
      let args ← optionalArguments nested
      filters nested n (located line (.filter name e args))
    else if ← skipWord "is" then
      let negated ← skipWord "not"
      let name ← expectName
      let line := (← get).line
      let args ←
        if (← peek).any startsArgument then pure [Arg.inPlace (← operand nested)]
        else optionalArguments nested
      let t := located line (.test name e args)
      filters nested n (if negated then located line (.unary .not t) else t)
    else return e

/-! ### Operators -/

/-- The power. -/
def power? : Token → Option BinaryOp
  | .sign "**" => some .pow
  | _ => none

/-- Products. -/
def product? : Token → Option BinaryOp
  | .sign "*" => some .mul
  | .sign "/" => some .div
  | .sign "//" => some .floorDiv
  | .sign "%" => some .rem
  | _ => none

/-- The joining of texts. -/
def joining? : Token → Option BinaryOp
  | .sign "~" => some .concat
  | _ => none

/-- Sum and difference. -/
def sum? : Token → Option BinaryOp
  | .sign "+" => some .add
  | .sign "-" => some .sub
  | _ => none

/-- Comparisons. -/
def comparison? : Token → Option BinaryOp
  | .sign "==" => some .eq
  | .sign "!=" => some .ne
  | .sign "<" => some .lt
  | .sign "<=" => some .le
  | .sign ">" => some .gt
  | .sign ">=" => some .ge
  | .ident "in" => some .contained
  | _ => none

/-- The comparisons behind a value, among them not being contained. -/
def links (operand : Reading Expr) : Nat → List Link → Reading (List Link)
  | 0, done => return done.reverse
  | n + 1, done => do
    match (← peek).bind comparison? with
    | some op =>
      discard next
      links operand n (.mk op false (← operand) :: done)
    | none =>
      if ← skipWord "not" then
        expectWord "in"
        links operand n (.mk .contained true (← operand) :: done)
      else return done.reverse

/-- Comparisons. -/
def comparison (operand : Reading Expr) : Reading Expr := do
  let line ← nextLine
  let e ← operand
  match ← links operand (← get).bound [] with
  | [] => return e
  | [.mk op false b] => return located line (.binary op e b)
  | [.mk op true b] => return located line (.unary .not (located line (.binary op e b)))
  | others => return located line (.compared e others)

/-- Negations of comparisons. -/
def negation (compared : Reading Expr) : Nat → Reading Expr
  | 0 => compared
  | n + 1 => do
    let line ← nextLine
    if ← skipWord "not" then return located line (.unary .not (← negation compared n))
    compared

/-- An expression that is no choice, of which those in brackets are read by `nested`. -/
def plain (nested : Reading Expr) : Reading Expr := do
  let s ← get
  let value := do filters nested s.bound (← operand nested)
  let sums := layer (layer (layer (layer value power?) product?) joining?) sum?
  let conjunction := layer (negation (comparison sums) s.bound) fun
    | .ident "and" => some .and
    | _ => none
  layer conjunction fun
    | .ident "or" => some .or
    | _ => none

/-- Choices behind an expression. -/
def choices (simple nested : Reading Expr) : Nat → Nat → Expr → Reading Expr
  | 0, _, e => return e
  | n + 1, line, e => do
    if ← skipWord "if" then
      let condition ← simple
      let no ← if ← skipWord "else" then pure (some (← nested)) else pure none
      choices simple nested n (← get).line (located line (.choice condition e no))
    else return e

/-- An expression with choices, no more than a number of them behind each other. -/
def choice (simple : Reading Expr) : Nat → Reading Expr
  | 0 => tooDeep
  | n + 1 => do
    let s ← get
    let e ← simple
    choices simple (choice simple n) s.bound s.line e

/-- An expression of at most a depth. -/
def expr : Nat → Reading Expr
  | 0 => tooDeep
  | n + 1 => deeper do choice (plain (expr n)) (← get).bound

/-- An expression. -/
def readExpr : Reading Expr := expr (maxDepth + 1)

/-- An expression that is no choice. -/
def readPlain : Reading Expr := plain readExpr

/-- An expression, or several of them with commas between them as a list. -/
def readSeveral : Reading Expr := do
  let line ← nextLine
  let e ← readExpr
  unless (← peek).any (·.isSign ",") do return e
  return located line (.list (← more (← get).bound [e]))
where
  more : Nat → List Expr → Reading (List Expr)
    | 0, done => return done.reverse
    | n + 1, done => do
      unless ← skipSign "," do return done.reverse
      if (← peek).any fun | .statementEnd => true | _ => false then return done.reverse
      more n ((← readExpr) :: done)

end Reading

end EntityForge.Template
