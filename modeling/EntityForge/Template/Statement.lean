import EntityForge.Template.Line

/-!
# Reading of templates

The nodes of a template are read from its tokens. A statement with a body reads the nodes up to the
word that ends the body, which is why a body is given the words it stops at. A statement carries the
line of its first word, text and an expression the line on which they start.
-/

namespace EntityForge.Template

namespace Reading

/-! ### Targets -/

/-- The names that nothing can be assigned to. -/
def reservedNames : List String :=
  ["true", "True", "false", "False", "none", "None", "loop", "self"]

/-- A name that can be assigned to. -/
def assignedName : Reading String := do
  let name ← expectName
  if reservedNames.contains name then
    fail (.badText s!"cannot assign to reserved variable name {name}")
  return name

/-- A target of a name or of a member behind it. -/
def members : Nat → Target → Expr → Reading Target
  | 0, t, _ => return t
  | n + 1, t, e => do
    if ← skipSign "." then
      let name ← expectName
      let line := (← get).line
      members n (.located line (.member e name)) (located line (.member e name))
    else return t

/-- A name that is assigned to or, if `dotted`, a member. -/
def nameTarget (dotted : Bool) : Reading Target := do
  let name ← assignedName
  unless dotted do return .var name
  let s ← get
  members s.bound (.var name) (located s.line (.var name))

/-- Whether a token ends a list of targets. -/
def endsTargets : Token → Bool
  | .expressionEnd | .statementEnd => true
  | t => t.isSign ")" || t.isWord "in"

/-- A target in brackets, behind the first of them. -/
def bracketedTarget (nested : Reading Target) : Reading Target := do
  let t ← nested
  expectSign ")"
  return t

/-- The targets of a list, in reverse order, and whether there is a comma behind one. `nested` reads
those in brackets. -/
def targets (dotted : Bool) (nested : Reading Target) :
    Nat → List Target → Bool → Reading (List Target × Bool)
  | 0, done, commas => return (done, commas)
  | n + 1, done, commas => do
    unless done.isEmpty do expectSign ","
    if (← peek).any endsTargets then return (done, commas)
    let t ← if ← skipSign "(" then bracketedTarget nested else nameTarget dotted
    if (← peek).any (·.isSign ",") then targets dotted nested n (t :: done) true
    else return (t :: done, commas)

/-- A target or a list of targets. -/
def target (dotted : Bool) : Nat → Reading Target
  | 0 => tooDeep
  | n + 1 => do
    let line ← nextLine
    match ← targets dotted (target dotted n) (← get).bound [] false with
    | ([t], false) => return t
    | (done, _) => return .located line (.list done.reverse)

/-- The target that an expression stands for, if it can be assigned to. -/
def targetOf? : Expr → Option Target
  | .located line e => (targetOf? e).map (.located line)
  | .var name => some (.var name)
  | .member owner name => some (.member owner name)
  | .list items => Target.list <$> items.mapM fun e =>
    match e.bare with
    | .var name => some (.var name)
    | .member owner name => some (.member owner name)
    | _ => none
  | _ => none

/-! ### Parts of statements -/

/-- The reader of nodes up to a statement whose first word is one of some words. -/
abbrev Body := List String → Reading (List Node)

/-- A body whose last statement is left. -/
def openBody (body : Body) (words : List String) : Reading (List Node) := do
  expectEnd
  body words

/-- A body up to its last statement, whose word is taken. -/
def wholeBody (body : Body) (word : String) : Reading (List Node) := do
  let nodes ← openBody body [word]
  discard next
  return nodes

/-- Whether a statement ends here. -/
def atEnd : Reading Bool := do
  return (← peek).any fun | .statementEnd => true | _ => false

/-- Filters that apply to a captured text. -/
def filterChain : Nat → Option Expr → Reading Expr
  | 0, e => return e.getD .captured
  | n + 1, e => do
    match ← peek, e with
    | some .statementEnd, some e => return e
    | some .statementEnd, none => fail (.badText "expected a filter")
    | _, _ =>
      if e.isSome then expectSign "|"
      let name ← expectName
      let line := (← get).line
      let args ← optionalArguments readExpr
      filterChain n (some (located line (.filter name (e.getD .captured) args)))

/-- The words that say whether another template sees the names of this one. -/
def skipContext : Reading Bool := do
  if ← skip fun t => t.isWord "with" || t.isWord "without" then
    expectWord "context"
    return true
  return false

/-- The parameters of a routine, with their defaults. -/
def parameters : Nat → List (String × Option Expr) → Reading (List (String × Option Expr))
  | 0, done => return done.reverse
  | n + 1, done => do
    if ← skipSign ")" then return done.reverse
    unless done.isEmpty do
      expectSign ","
      if ← skipSign ")" then return done.reverse
    let name ← assignedName
    if ← skipSign "=" then parameters n ((name, some (← readExpr)) :: done)
    else
      if done.any (·.2.isSome) then expectSign "="
      parameters n ((name, none) :: done)

/-- A step, and whether it asks for the routine of a call. -/
def watchingCaller {α : Type} (step : Reading α) : Reading (α × Bool) := do
  let before := (← get).asksCaller
  modify fun s => { s with asksCaller := false }
  let a ← step
  let asks := (← get).asksCaller
  modify fun s => { s with asksCaller := before || asks }
  return (a, asks)

/-- The body of a routine up to its last statement, whose word is taken. -/
def routineBody (body : Body) (word : String) : Reading (List Node) := do
  let before := (← get).inRoutine
  modify fun s => { s with inRoutine := true }
  let nodes ← wholeBody body word
  modify fun s => { s with inRoutine := before }
  return nodes

/-- The routine of some parts; `asks` says whether they ask for the routine of a call, which a
parameter of that name stands in for. -/
def routineOf (name : String) (params : List (String × Option Expr)) (asks : Bool)
    (body : List Node) : Routine :=
  .mk name params (asks && params.all (·.1 != "caller")) body

/-- An expression in words. -/
def describe (e : Expr) : String :=
  match e.bare with
  | .literal _ | .captured => "constant"
  | .var _ => "variable"
  | .list _ => "list literal"
  | .dict _ => "map literal"
  | .filter .. => "filter expression"
  | .test .. => "test expression"
  | .call .. => "call"
  | _ => "expression"

/-- A call. -/
def call : Reading Expr := do
  let e ← readExpr
  match e.bare with
  | .call .. => return e
  | _ => fail (.badText s!"expected call expression in call block, got {describe e}")

/-! ### Statements -/

/-- A loop. -/
def loop (body : Body) : Reading Node := do
  let t ← target false maxDepth
  expectWord "in"
  let items ← readPlain
  let condition ← if ← skipWord "if" then pure (some (← readExpr)) else pure none
  let recursive ← skipWord "recursive"
  let nodes ← openBody body ["endfor", "else"]
  let orElse ← if ← skipWord "else" then openBody body ["endfor"] else pure []
  discard next
  return .loop t items condition recursive nodes orElse

/-- The rest of a choice, from its condition on. -/
def choiceFrom (body : Body) : Nat → Reading Node
  | 0 => tooDeep
  | n + 1 => do
    let condition ← readPlain
    let yes ← openBody body ["endif", "else", "elif"]
    match ← next with
    | some (.ident "else") => return .choice condition yes (← wholeBody body "endif")
    | some (.ident "elif") =>
      let line := (← get).line
      return .choice condition yes [.located line (← choiceFrom body n)]
    | _ => return .choice condition yes []

/-- The sign of an assignment. -/
def expectAssignment : Reading Unit :=
  expect "assignment operator" fun t => if t.isSign "=" then some () else none

/-- The assignments of a scope. -/
def scopeAssignments : Nat → List (Target × Expr) → Reading (List (Target × Expr))
  | 0, done => return done.reverse
  | n + 1, done => do
    if ← atEnd then return done.reverse
    unless done.isEmpty do
      expect "comma" fun t => if t.isSign "," then some () else none
    let t ←
      if ← skipSign "(" then bracketedTarget (target false maxDepth) else nameTarget false
    expectAssignment
    scopeAssignments n ((t, ← readExpr) :: done)

/-- An assignment. -/
def assignment (body : Body) : Reading Node := do
  let inBrackets := (← peek).any (·.isSign "(")
  let t ← target true maxDepth
  let ended := (← atEnd) || (← peek).any (·.isSign "|")
  if ended && !inBrackets then
    let filter ←
      if ← skipSign "|" then pure (some (← filterChain (← get).bound none)) else pure none
    return .assignText t filter (← wholeBody body "endset")
  expectAssignment
  return .assign t (← readSeveral)

/-- Whether a node leaves nothing but blanks. -/
def isBlankText : Node → Bool
  | .text s => s.toList.all Text.isBlank
  | .located _ node => isBlankText node
  | _ => false

/-- A block. -/
def block (body : Body) : Reading Node := do
  if (← get).inRoutine then fail (.badText "block tags in macros are not allowed")
  let name ← expectName
  if (← get).blocks.contains name then fail (.badText s!"block '{name}' defined twice")
  modify fun s => { s with blocks := name :: s.blocks }
  discard (skipWord "scoped")
  let required ← skipWord "required"
  let nodes ← wholeBody body "endblock"
  if required && !nodes.all isBlankText then
    fail (.badText "Required blocks can only contain comments or whitespace")
  match ← peek with
  | some (.ident other) =>
    if other ≠ name then
      fail (.badText s!"mismatching name on block. Got `{other}`, expected `{name}`")
    discard next
  | _ => pure ()
  return .block name required nodes

/-- An included template. -/
def embed : Reading Node := do
  let e ← readExpr
  discard skipContext
  let ignoreMissing ← skipWord "ignore"
  if ignoreMissing then
    expectWord "missing" "missing keyword"
    discard skipContext
  return .embed e ignoreMissing

/-- The import of a template as one value. -/
def importAll : Reading Node := do
  let e ← readExpr
  expectWord "as"
  match targetOf? (← readExpr) with
  | none => unexpected "expression" "identifier"
  | some t =>
    discard skipContext
    return .importAll e t

/-- Whether the list of imported names ends here. -/
def endsNames : Reading Bool := do
  if ← skipContext then return true
  atEnd

/-- The names that are imported, with the names they get. -/
def importedNames : Nat → List (String × String) → Reading (List (String × String))
  | 0, done => return done.reverse
  | n + 1, done => do
    if ← endsNames then return done.reverse
    unless done.isEmpty do
      expectSign ","
      if ← endsNames then return done.reverse
    let name ← assignedName
    let target ← if ← skipWord "as" then assignedName else pure name
    importedNames n ((name, target) :: done)

/-- The import of some names of a template. -/
def importNames : Reading Node := do
  let e ← readExpr
  expectWord "import"
  return .importNames e (← importedNames (← get).bound [])

/-- A routine. -/
def define (body : Body) : Reading Node := do
  let name ← expectName
  expectSign "("
  let ((params, nodes), asks) ← watchingCaller do
    let params ← parameters (← get).bound []
    return (params, ← routineBody body "endmacro")
  return .define (routineOf name params asks nodes)

/-- A call with a body. -/
def callWith (body : Body) : Reading Node := do
  let (params, paramsAsk) ← watchingCaller do
    if ← skipSign "(" then parameters (← get).bound [] else pure []
  let e ← call
  let (nodes, bodyAsks) ← watchingCaller (routineBody body "endcall")
  return .callWith e (routineOf "caller" params (paramsAsk || bodyAsks) nodes)

/-- A statement without its marks. -/
def statement (body : Body) : Reading Node := do
  match ← next with
  | none => unexpected "end of input" "block keyword"
  | some (.ident word) =>
    let s ← get
    match word with
    | "for" => loop body
    | "if" => choiceFrom body s.bound
    | "with" => return .scope (← scopeAssignments s.bound []) (← wholeBody body "endwith")
    | "set" => assignment body
    | "autoescape" => return .escaped (← readExpr) (← wholeBody body "endautoescape")
    | "filter" => return .filtered (← filterChain s.bound none) (← wholeBody body "endfilter")
    | "block" => block body
    | "extends" => return .extend (← readExpr)
    | "include" => embed
    | "import" => importAll
    | "from" => importNames
    | "macro" => define body
    | "call" => callWith body
    | "do" => return .perform (← call)
    | _ => fail (.badText s!"unknown statement {word}")
  | some t => fail (.badText s!"unknown {t.words}, expected statement")

/-- The nodes of a body; `body` reads the bodies inside it. -/
def nodes (body : Body) (words : List String) : Nat → List Node → Reading (List Node)
  | 0, done => return done.reverse
  | n + 1, done => do
    let first ← next
    let line := (← get).line
    match first with
    | none => return done.reverse
    | some (.data s) => nodes body words n (.located line (.text s) :: done)
    | some .expressionStart =>
      let e ← readExpr
      expect "end of variable block" fun
        | .expressionEnd => some ()
        | _ => none
      nodes body words n (.located line (.emit e) :: done)
    | some .statementStart =>
      match ← peek with
      | none => fail (.badText "unexpected end of input, expected keyword")
      | some t =>
        if words.any t.isWord then return done.reverse
        let own ← nextLine
        let node ← deeper (statement body)
        expectEnd
        nodes body words n (.located own node :: done)
    | some t => fail (.badText s!"unexpected {t.words}")

/-- The nodes of a body with statements of at most a depth inside each other. -/
def bodyOf : Nat → Body
  | 0, _ => tooDeep
  | n + 1, words => do nodes (bodyOf n) words (← get).bound []

end Reading

/-- The template of a name and a text. -/
def Parsed.ofText (name source : String) : Except Error Parsed := do
  let rest := tokens source
  let (nodes, _) ←
    (Reading.bodyOf (Reading.maxDepth + 1) []).run { name, rest, bound := rest.length + 1 }
  return { name, nodes := placedNodes nodes }

end EntityForge.Template
