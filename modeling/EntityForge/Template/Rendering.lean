import EntityForge.Template.State

/-!
# Rendering

What the expressions and nodes of a template do to the state. Each step is defined in terms of
`Steps`, the means to evaluate an expression and to run nodes one level deeper; `evaluate` and
`execute` tie them together and count the levels that are left. Templates and routines inside each
other are refused beyond `Run.maxDepth`, and expressions and nodes of one template beyond
`Reading.maxDepth`, so that `levels` are never used up.
-/

namespace EntityForge.Template

open Run

/-- The means of a step. -/
structure Steps where
  /-- The template of a name. -/
  load : String → Except Error Parsed
  /-- Evaluates an expression. -/
  expr : Expr → Run Value
  /-- Runs nodes. -/
  nodes : List Node → Run Unit

namespace Steps

/-! ### Uses of values -/

/-- Whether the value of an expression counts as true. -/
def truthIn (s : Steps) (e : Expr) : Run Bool := do
  let v ← s.expr e
  placedAs e (truthOf v)

/-- The value of an expression, which is to be gone through, with its items. -/
def itemsIn (s : Steps) (e : Expr) : Run (Value × List Value) := do
  let v ← s.expr e
  return (v, ← placedAs e (v.iterated : Except Error (List Value)))

/-- Adds the text of the value of an expression. -/
def emitIn (s : Steps) (e : Expr) : Run Unit := do
  let v ← s.expr e
  placedAs e (emit v)

/-- The value of an expression, if it is there. -/
def exprOption (s : Steps) (e : Option Expr) : Run (Option Value) := e.mapM s.expr

/-! ### Assignments -/

mutual

/-- Assigns a value to a target. -/
def assign (s : Steps) (v : Value) : Target → Run Unit
  | .located line t => placed line (assign s v t)
  | .var name => store name v
  | .member owner name => do
    match ← s.expr owner with
    | .nameSpace id _ =>
      modify fun st => { st with spaces := st.spaces.modify id (Value.insertMember name v) }
    | w => throw (.invalid s!"can only assign to namespaces, not {w.kind.words}")
  | .list targets =>
    match v.contents? with
    | some items =>
      if items.length = targets.length then assignAll s items targets
      else throw (.of .cannotUnpack
        s!"sequence of wrong length (expected {targets.length}, got {items.length})")
    | none => throw (.of .cannotUnpack "value is not iterable")

/-- Assigns values to targets, one to each. -/
def assignAll (s : Steps) (items : List Value) : List Target → Run Unit
  | [] => return ()
  | t :: rest => do
    match items with
    | [] => return ()
    | v :: others =>
      assign s v t
      assignAll s others rest

end

/-! ### Arguments -/

/-- An argument that has been evaluated. -/
inductive Given
  /-- A value in its place. -/
  | inPlace (v : Value)
  /-- A value with a name. -/
  | named (name : String) (v : Value)
  /-- A value whose items are values in their places. -/
  | spread (v : Value)
  /-- A value whose members are values with names. -/
  | spreadNamed (v : Value)

/-- Evaluates an argument. -/
def given (s : Steps) : Arg → Run Given
  | .inPlace e => Given.inPlace <$> s.expr e
  | .named name e => Given.named name <$> s.expr e
  | .spread e => Given.spread <$> s.expr e
  | .spreadNamed e => Given.spreadNamed <$> s.expr e

/-- The values with names among arguments. -/
def givenNames (args : List Given) : Except Error (List (String × Value)) :=
  List.flatten <$> args.mapM fun
    | .named name v => return [(name, v)]
    | .spreadNamed v =>
      match v.pairs? with
      | some pairs => return pairs.map fun (key, w) => (key.shown, w)
      | none => throw (.invalid
        s!"attempted to apply keyword arguments from non map (got {v.kind.words})")
    | _ => return []

/-- The values in their places among arguments. -/
def givenPlaces (args : List Given) : Except Error (List Value) :=
  List.flatten <$> args.mapM fun
    | .inPlace v => return [v]
    | .spread v =>
      match v.items? with
      | some items => return items
      | none => throw (.invalid s!"{v.kind.words} is not iterable")
    | _ => return []

/-- The arguments of a call with those that have names as one last value; `more` come to them. -/
def values (s : Steps) (args : List Arg) (more : List (String × Value)) : Run (List Value) := do
  let all ← args.mapM s.given
  let names ← (givenNames all : Except Error (List (String × Value)))
  let places ← (givenPlaces all : Except Error (List Value))
  if args.any Arg.hasName || !more.isEmpty then
    return places ++ [.named (Value.sortedMembers (names ++ more))]
  return places

/-! ### Routines -/

/-- The values of the parameters of a routine; `asksCaller` says whether it may also be given the
routine of a call. -/
def parameterValues (names : List String) (asksCaller : Bool) (args : List Value)
    (named : List (String × Value)) : Except Error (List (String × Value)) := do
  if names.length < args.length then throw { kind := .tooManyArguments }
  let values ← names.zipIdx.mapM fun (name, i) =>
    match args[i]?, named.lookup name with
    | some _, some _ => throw (.of .tooManyArguments s!"duplicate argument `{name}`")
    | some v, none | none, some v => return (name, v)
    | none, none => return (name, Value.undefined)
  match named.find? fun (name, _) => !names.contains name && !(asksCaller && name == "caller") with
  | some (name, _) => throw (.of .tooManyArguments s!"unknown keyword argument `{name}`")
  | none => return values

/-- Gives the parameters of a routine their values, the last one first; the default of a parameter
stands in where it has none. -/
def bindParameters (s : Steps) (params : List (String × Option Expr))
    (given : List (String × Value)) : Run Unit :=
  (params.zip given).reverse.forM fun ((name, default), _, v) => do
    match default with
    | some e => store name (← if v.isUndefined then s.expr e else pure v)
    | none => store name v

/-- How much deeper a routine is than its call, its own frame aside. -/
def routineDepth : Nat := 5

/-- Runs a routine on arguments. -/
def callRoutine (s : Steps) (r : Routine) (shared : Nat) (home : String) (args : List Value) :
    Run Value := do
  let (args, named) := match args.getLast? with
    | some (.named pairs) => (args.dropLast, pairs)
    | _ => (args, [])
  let given ← (parameterValues (r.params.map (·.1)) r.asksCaller args named
    : Except Error (List (String × Value)))
  let caller := if r.asksCaller then [("caller", (named.lookup "caller").getD .undefined)] else []
  let before ← get
  let text ← capture do
    modify fun st =>
      { st with
        frames := [{ locals := caller }]
        base := st.closures.getD shared []
        depth := st.depth + st.frames.length + routineDepth
        template := home
        blocks := []
        block := none
        parent := none }
    checkDepth
    s.bindParameters r.params given
    s.nodes r.body
  modify fun st =>
    { st with
      frames := before.frames
      base := before.base
      depth := before.depth
      template := before.template
      blocks := before.blocks
      block := before.block
      parent := before.parent }
  rendered text

/-! ### Functions -/

/-- The next argument of a function as an integer, if there is one that is a value. -/
def integer? : Taking (Option Int) := do
  match ← get with
  | [] => return none
  | v :: rest =>
    set rest
    if v.isUndefined || v.kind == .none then return none
    some <$> (Taking.asInteger .isize v : Except Error Int)

/-- How many numbers a range may have. -/
def maxRange : Nat := 100000

/-- The numbers of a range. -/
def range : Taking Value := do
  let first ← (Taking.asInteger .isize (← Taking.any) : Except Error Int)
  let second ← integer?
  let step := (← integer?).getD 1
  let (low, high) := match second with
    | some high => (first, high)
    | none => (0, first)
  if step = 0 then throw (.invalid "cannot create range with step of 0")
  let distance := if 0 < step then high - low else low - high
  let count := (distance.toNat + step.natAbs - 1) / step.natAbs
  if count > maxRange then throw (.invalid "range has too many elements")
  return .ofItems ((List.range count).map fun (i : Nat) => .ofInt (low + (i : Nat) * step))

/-- The next argument of a function, if there is one that is a value. -/
def argument? : Taking (Option Value) := do
  match ← get with
  | [] => return none
  | v :: rest =>
    set rest
    return if v.isUndefined || v.kind == .none then none else some v

/-- A map of the members of a map and of those that a call names. -/
def dictionary : Taking Value := do
  let named ← Taking.named
  let members ← match ← argument? with
    | none => pure []
    | some v =>
      match v.pairs? with
      | some pairs => pure pairs
      | none => throw { kind := .invalidOperation }
  return .ofPairs (members ++ named.map fun (name, v) => (.ofString name, v))

/-- The members of a new name space. -/
def spaceMembers : Taking (List (String × Value)) := do
  match ← argument? with
  | none => return []
  | some v =>
    match v.pairs? with
    | none => throw (.invalid s!"expected object or keyword arguments, got {v.kind.words}")
    | some pairs =>
      let members ← pairs.mapM fun
        | (.text name _, w) => return (name, w)
        | (key, _) =>
          throw (.invalid s!"expected namespace key to be string, got {key.kind.words}")
      return Value.sortedMembers members

/-- Calls a function that every template knows. -/
def callFunction (name : String) (args : List Value) : Run Value :=
  match name with
  | "range" => (range.run args : Except Error Value)
  | "dict" => (dictionary.run args : Except Error Value)
  | "namespace" => do
    let members ← (spaceMembers.run args : Except Error (List (String × Value)))
    let id := (← get).spaces.size
    modify fun s => { s with spaces := s.spaces.push members }
    return .nameSpace id members
  | _ =>
    match args with
    | [] => return .ofString ""
    | [v] => return .ofString (v.spread "")
    | vs => return .ofString ((Value.list vs).spread "")

/-! ### Loops -/

/-- How deep a loop stands in loops that can be started anew. -/
def loopDepth (st : State) : Nat :=
  match st.frames.find? (·.loop.isSome) with
  | some { loop := some (.loop _ _ _ depth _ _), recursive := true, .. } => depth + 1
  | _ => 0

/-- Runs the body of a loop for each item. -/
def iterate (s : Steps) (target : Target) (body : List Node) (id : Nat) (length : Option Nat)
    (depth : Nat) : Nat → Value → List Value → Run Unit
  | _, _, [] => return ()
  | index, previous, v :: rest => do
    let current := Value.loop id index length depth previous (rest.head?.getD .undefined)
    modify fun st => { st with loops := st.loops.modify id fun l => { l with current } }
    changeFrame fun frame => { frame with loop := some current }
    s.assign v target
    s.nodes body
    iterate s target body id length depth (index + 1) v rest

/-- Runs a loop over items. -/
def runLoop (s : Steps) (r : Repetition) (recursive : Bool) (length : Option Nat)
    (items : List Value) : Run Unit := do
  let st ← get
  let depth := loopDepth st
  let id := st.loops.size
  let start := Value.loop id 0 length depth .undefined .undefined
  let again := if recursive then some r else none
  modify fun st => { st with loops := st.loops.push { current := start, again } }
  inFrame { loop := some start, recursive }
    (s.iterate r.target r.body id length depth 0 .undefined items)

/-- The items that pass the condition of a loop. -/
def passing (s : Steps) (target : Target) (condition : Expr) (items : List Value) :
    Run (List Value) :=
  inFrame {} (items.filterM fun v => do
    s.assign v target
    s.truthIn condition)

/-- Starts a loop anew with other items. -/
def repeatLoop (s : Steps) (id : Nat) (args : List Value) : Run Value := do
  let st ← get
  match args with
  | [v] =>
    match st.loops[id]?.bind (·.again) with
    | some r =>
      match v.iterated with
      | .ok items => rendered (← capture (s.runLoop r true v.knownLength? items))
      | .error e =>
        throw
          { Error.invalid "cannot recurse because of non-iterable value" with
            place := some (st.template, r.line)
            behind := (e.placedAt st.template st.line).chain }
    | none => throw (.invalid "cannot recurse outside of recursive loop")
  | _ => throw (.invalid "loop() takes one argument")

/-- Whether a loop is asked about other values than the last time. -/
def changed (id : Nat) (args : List Value) : Run Value := do
  let same := match (← get).loops[id]?.bind (·.asked) with
    | some before => (Value.list before).same (.list args)
    | none => false
  modify fun st => { st with loops := st.loops.modify id fun l => { l with asked := some args } }
  return .bool !same

/-! ### Blocks -/

/-- Runs the body of a block that comes at a place. -/
def runBlock (s : Steps) (name : String) (place : Nat) : Run Unit := do
  let st ← get
  match (st.blocks.lookup name).bind (·[place]?) with
  | none => throw (.of .unknownBlock s!"block '{name}' not found")
  | some (home, block) =>
    if block.required && place == 0 then throw (.invalid s!"Required block '{name}' not found")
    modify fun st => { st with template := home, block := some (name, place) }
    inFrame {} (s.nodes block.body)
    modify fun now => { now with template := st.template, block := st.block }

/-- A step whose failure is the failure of a block. -/
def inSuper (step : Run Unit) : Run Unit := fun st =>
  match step st with
  | .ok r => .ok r
  | .error e => .error { Error.of .evalBlock "error in super block" with behind := e.chain }

/-- The text of the body that the one of the rendered block replaces. -/
def superText (s : Steps) : Run Value := do
  match (← get).block with
  | none => throw (.invalid "cannot super outside of block")
  | some (name, place) =>
    if ((← get).blocks.lookup name).all fun bodies => bodies.length ≤ place + 1 then
      throw (.invalid "no parent block exists")
    rendered (← capture (inSuper (s.runBlock name (place + 1))))

/-- Adds the bodies of the blocks of a template behind those there are. -/
def addBlocks (table : BlockTable) (t : Parsed) : BlockTable :=
  (blocksOf t.nodes).foldl (fun done block =>
    if (done.lookup block.name).isSome then
      done.map fun (other, bodies) =>
        if other == block.name then (other, bodies ++ [(t.name, block)]) else (other, bodies)
    else done ++ [(block.name, [(t.name, block)])]) table

/-! ### Calls -/

/-- Calls a value. -/
def callValue (s : Steps) (v : Value) (args : List Value) : Run Value :=
  match v with
  | .routine r shared home => s.callRoutine r shared home args
  | .function name => callFunction name args
  | .loop .. => throw (.invalid "loop recursion cannot be called this way")
  | v =>
    throw (.invalid
      (if v.isObject then "object is not callable"
        else s!"value of type {v.kind.words} is not callable"))

/-- Asks a value to do something. -/
def callMethod (s : Steps) (v : Value) (method : String) (args : List Value) : Run Value := do
  match v, method with
  | .loop _ index .., "cycle" => return args[index % args.length]?.getD .undefined
  | .loop id .., "changed" => changed id args
  | _, _ =>
    match v.member? method with
    | some w => s.callValue w args
    | none => throw (.of .unknownMethod s!"{v.kind.words} has no method named {method}")

/-- Calls the value of a name. A loop that is called starts anew. -/
def callName (s : Steps) (name : String) (args : List Value) : Run Value := do
  if name = "super" then
    unless args.isEmpty do throw (.invalid "super() takes no arguments")
    s.superText
  else
    match ← lookup? name with
    | some (.loop id ..) => s.repeatLoop id args
    | some v => s.callValue v args
    | none => throw (.of .unknownFunction s!"{name} is unknown")

/-- A call; `more` come to the arguments with names. -/
def call (s : Steps) (callee : Expr) (args : List Arg) (more : List (String × Value)) :
    Run Value := do
  match callee.bare with
  | .var name => s.callName name (← s.values args more)
  | .member owner name =>
    if callee.isCalledByName then rendered (← capture (s.runBlock name 0))
    else
      let v ← s.expr owner
      s.callMethod v name (← s.values args more)
  | _ =>
    let v ← s.expr callee
    s.callValue v (← s.values args more)

/-! ### Expressions -/

/-- The truth of comparisons of neighbours, of which the first that fails ends the others. -/
def comparisons (s : Steps) (v : Value) : List Link → Run Bool
  | [] => return true
  | .mk op negated e :: rest => do
    let w ← s.expr e
    let holds ← placedAs e (v.binary op w : Except Error Value)
    if holds.truth == negated then return false
    comparisons s w rest

mutual

/-- Whether two expressions name the same value by the same way. -/
def sameWay : Expr → Expr → Bool
  | .located _ a, b => sameWay a b
  | a, .located _ b => sameWayOf a b
  | a, b => sameWayOf a b

/-- Whether an expression names the same value as another one whose line is left out. -/
def sameWayOf : Expr → Expr → Bool
  | a, .located _ b => sameWayOf a b
  | .var a, .var b => a == b
  | .member a n, .member b m => n == m && sameWay a b
  | .item a k, .item b l => sameWay a b && sameWay k l
  | .literal (.integer m), .literal (.integer n) => m == n
  | .literal (.text s), .literal (.text t) => s == t
  | _, _ => false

end

/-- Whether a value passes a test. -/
def test (s : Steps) (name : String) (e : Expr) (args : List Arg) : Run Value := do
  let v ← s.expr e
  let vs ← s.values args []
  match name, args, vs with
  | "sameas", [.inPlace other], [w] => return .bool (identical (sameWay e other) v w)
  | _, _, _ => return .bool (← (passes name (v :: vs) : Except Error Bool))

/-- The value of an expression. -/
def evaluate (s : Steps) : Expr → Run Value
  | .literal v => return .ofLiteral v
  | .var name => do return (← lookup? name).getD .undefined
  | .list items => do return .list (← items.mapM s.expr)
  | .dict pairs => do
    return .ofPairs (← pairs.mapM fun (key, e) => do return (← s.expr key, ← s.expr e))
  | .unary .not e => do return .bool !(← s.truthIn e)
  | .unary .negate e => do ((← s.expr e).negated : Except Error Value)
  | .binary .and a b => do
    let v ← s.expr a
    if ← placedAs a (truthOf v) then s.expr b else return v
  | .binary .or a b => do
    let v ← s.expr a
    if ← placedAs a (truthOf v) then return v else s.expr b
  | .binary op a b => do
    let v ← s.expr a
    let w ← s.expr b
    (v.binary op w : Except Error Value)
  | .compared first others => do return .bool (← s.comparisons (← s.expr first) others)
  | .choice condition yes no => do
    if ← s.truthIn condition then s.expr yes else return (← s.exprOption no).getD .omitted
  | .member e name => do
    let v ← s.expr e
    settled (← (v.member name : Except Error Value))
  | .item e key => do
    let v ← s.expr e
    let k ← s.expr key
    settled (← (v.item k : Except Error Value))
  | .slice e start stop step => do
    let v ← s.expr e
    let first ← s.exprOption start
    let last ← s.exprOption stop
    let stride ← s.exprOption step
    (v.sliced first last stride : Except Error Value)
  | .filter name e args => do
    let v ← s.expr e
    let vs ← s.values args []
    (applyFilter name (v :: vs) : Except Error Value)
  | .test name e args => s.test name e args
  | .call callee args => s.call callee args []
  | .captured => do return (← get).captured
  | .located line e => placed line (s.expr e)

/-! ### Templates inside templates -/

/-- Runs a template and, if it extends another one, that one instead of it. -/
def runParsed (s : Steps) : Nat → Parsed → Run Unit
  | 0, _ => throw (.invalid "recursion limit exceeded")
  | n + 1, t => do
    modify fun st => { st with template := t.name, parent := none }
    s.nodes t.nodes
    match (← get).parent with
    | none => return ()
    | some (parent, before) =>
      modify fun st => { st with out := before }
      runParsed s n parent

/-- Runs a template from its start. -/
def runTemplate (s : Steps) (t : Parsed) : Run Unit := do
  modify fun st => { st with blocks := addBlocks [] t, block := none, escape := false }
  s.runParsed maxDepth t

/-- The first template that exists, or those that do not. -/
def firstTemplate (s : Steps) : List Value → List Value → Run (Except (List Value) Parsed)
  | tried, [] => return .error tried.reverse
  | tried, .text name _ :: rest =>
    match s.load name with
    | .ok t => return .ok t
    | .error e =>
      if e.kind = .templateNotFound then firstTemplate s (.ofString name :: tried) rest else throw e
  | _, _ => throw (.invalid "template name was not a string")

/-- The wording for templates none of which exists. -/
def missingTemplates : List Value → String
  | [v] => s!"tried to include non-existing template {v.inner}"
  | vs =>
    s!"tried to include one of multiple templates, none of which existed {(Value.list vs).inner}"

/-- A step whose failure is the failure to include a template. -/
def including (name : String) (step : Run Unit) : Run Unit := fun st =>
  match step st with
  | .ok r => .ok r
  | .error e =>
    .error
      { kind := .badInclude
        detail := some s!"error in {Text.quoted name}"
        behind := e.chain }

/-- How much deeper an included template is than the place where it is included. -/
def includeDepth : Nat := 10

/-- Adds the text of another template, the first of some that exists. -/
def embed (s : Steps) (v : Value) (ignoreMissing : Bool) : Run Unit := do
  match ← s.firstTemplate [] (v.contents?.getD [v]) with
  | .error tried =>
    unless ignoreMissing || tried.isEmpty do
      throw (.of .templateNotFound (missingTemplates tried))
  | .ok t =>
    let before ← get
    let oldClosure := before.frames.head?.bind (·.closure)
    modify fun st => { st with depth := st.depth + includeDepth }
    checkDepth
    changeFrame fun frame => { frame with closure := none }
    including t.name (s.runTemplate t)
    changeFrame fun frame => { frame with closure := oldClosure }
    modify fun st =>
      { st with
        depth := before.depth
        template := before.template
        blocks := before.blocks
        block := before.block
        parent := before.parent
        extended := before.extended
        escape := before.escape }

/-- Takes note of the template that the rendered one extends. -/
def extend (s : Steps) (v : Value) : Run Unit := do
  if (← get).parent.isSome then
    throw (.invalid "tried to extend a second time in a template")
  match v with
  | .text name _ =>
    if (← get).extended.contains name then
      throw (.invalid
        s!"cycle in template inheritance. {Text.quoted name} was referenced more than once")
    let t ← (s.load name : Except Error Parsed)
    modify fun st =>
      { st with
        extended := name :: st.extended
        blocks := addBlocks st.blocks t
        parent := some (t, st.out) }
  | _ => throw (.invalid "template name was not a string")

/-- What another template defines, with its text. -/
def importAll (s : Steps) (e : Expr) : Run Value :=
  inFrame {} do
    let v ← s.expr e
    let text ← capture (s.embed v false)
    let members := ((← get).frames.head?.map (·.locals)).getD []
    return .library text (Value.sortedMembers members)

/-- The values of some names that another template defines. -/
def importNames (s : Steps) (e : Expr) (names : List (String × String)) :
    Run (List (String × Value)) :=
  discarded <| inFrame {} do
    let v ← s.expr e
    s.embed v false
    names.mapM fun (name, target) => do return (target, (← lookup? name).getD .undefined)

/-! ### Nodes -/

/-- The text of nodes as a value. -/
def textOf (s : Steps) (body : List Node) : Run Value := do rendered (← capture (s.nodes body))

/-- The text of nodes, passed through filters. -/
def filteredText (s : Steps) (filter : Expr) (body : List Node) : Run Value := do
  let text ← s.textOf body
  let before := (← get).captured
  modify fun st => { st with captured := text }
  let v ← s.expr filter
  modify fun st => { st with captured := before }
  return v

/-- Whether values are escaped under a rule. -/
def escapes (rule : Value) : Except Error Bool :=
  match rule with
  | .text "html" _ => return true
  | .text "none" _ => return false
  | .text .. => throw (.invalid "invalid value to autoescape tag")
  | v => return v.same (.bool true)

/-- A routine as a value, which knows the place where it stands. -/
def routineValue (r : Routine) : Run Value := do
  return .routine r (← sharedClosure) (← get).template

/-- What a node does. -/
def execute (s : Steps) : Node → Run Unit
  | .text text => write text
  | .emit e => s.emitIn e
  | .choice condition yes no => do
    if ← s.truthIn condition then s.nodes yes else s.nodes no
  | .loop target items condition recursive body orElse => do
    let (v, all) ← s.itemsIn items
    let line := items.lineOr (← get).line
    let (length, chosen) ← match condition with
      | some c => do
        let chosen ← s.passing target c all
        pure (some chosen.length, chosen)
      | none => pure (v.knownLength?, all)
    s.runLoop { target, body, line } recursive length chosen
    if chosen.isEmpty then s.nodes orElse
  | .assign target e => do s.assign (← s.expr e) target
  | .assignText target none body => do s.assign (← s.textOf body) target
  | .assignText target (some filter) body => do s.assign (← s.filteredText filter body) target
  | .scope assignments body =>
    inFrame {} do
      assignments.forM fun (target, e) => do s.assign (← s.expr e) target
      s.nodes body
  | .filtered filter body => do
    let v ← s.filteredText filter body
    placedAs filter (emit v)
  | .escaped rule body => do
    let before := (← get).escape
    let v ← s.expr rule
    let now ← placedAs rule (escapes v : Except Error Bool)
    modify fun st => { st with escape := now }
    s.nodes body
    modify fun st => { st with escape := before }
  | .block name .. => do
    let st ← get
    if st.parent.isNone && !st.discarding then s.runBlock name 0
  | .extend e => do s.extend (← s.expr e)
  | .embed e ignoreMissing => do s.embed (← s.expr e) ignoreMissing
  | .importAll e target => do s.assign (← s.importAll e) target
  | .importNames e names => do
    (← s.importNames e names).forM fun (name, v) => store name v
  | .define r => do store r.name (← routineValue r)
  | .callWith e r =>
    match e.bare with
    | .call callee args =>
      placedAs e do
        let caller ← routineValue r
        emit (← s.call callee args [("caller", caller)])
    | _ => return ()
  | .perform e => do discard (s.expr e)
  | .located line node => placed line (s.nodes [node])

end Steps

/-! ### All levels -/

/-- The number of levels of a rendering. -/
def levels : Nat := 10000000

mutual

/-- The value of an expression. -/
def evaluate (load : String → Except Error Parsed) : Nat → Expr → Run Value
  | 0, _ => throw (.invalid "recursion limit exceeded")
  | n + 1, e => Steps.evaluate ⟨load, evaluate load n, execute load n⟩ e

/-- Runs nodes one after another. -/
def execute (load : String → Except Error Parsed) : Nat → List Node → Run Unit
  | 0, _ => throw (.invalid "recursion limit exceeded")
  | n + 1, nodes => nodes.forM (Steps.execute ⟨load, evaluate load n, execute load n⟩)

end

/-- The text of a template under some names. -/
def Parsed.render (load : String → Except Error Parsed) (t : Parsed)
    (names : List (String × Value)) : Except Error String := do
  let steps : Steps := ⟨load, evaluate load levels, execute load levels⟩
  let (_, last) ← (steps.runTemplate t).run { frames := [{}], base := names, template := t.name }
  return last.out

end EntityForge.Template
