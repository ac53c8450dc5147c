import EntityForge.Template.Filter

/-!
# State of a rendering

While a template is rendered there are the text so far, the names that can be seen, and what
routines, name spaces and loops remember. Names are kept in frames, the innermost first. A routine
sees the names of the place where it stands; they are kept in a closure, which later assignments at
that place still reach.

Name spaces and loops change after they have been given a name. A value that stands for one carries
what it was at some moment and is brought up to date when its name is looked up.
-/

namespace EntityForge.Template

/-- The value of a name in a list, replaced or added. -/
def bindName (name : String) (v : Value) : List (String × Value) → List (String × Value)
  | [] => [(name, v)]
  | (other, w) :: rest =>
    if other = name then (name, v) :: rest else (other, w) :: bindName name v rest

/-- The names of one place. -/
structure Frame where
  /-- The names that were assigned there. -/
  locals : List (String × Value) := []
  /-- The loop that runs there. -/
  loop : Option Value := none
  /-- Whether that loop can be started anew from inside. -/
  recursive : Bool := false
  /-- The closure that the routines of that place share. -/
  closure : Option Nat := none

/-- What to repeat if a loop is started anew from inside. -/
structure Repetition where
  /-- What the items are assigned to. -/
  target : Target
  /-- The body. -/
  body : List Node
  /-- The line of the loop. -/
  line : Nat

/-- What is known of a loop that has been started. -/
structure LoopRecord where
  /-- Its present state. -/
  current : Value
  /-- What to repeat if it is started anew. -/
  again : Option Repetition := none
  /-- The values that it was last asked about. -/
  asked : Option (List Value) := none

/-- The bodies of each block with the templates they stand in, the one that counts first. -/
abbrev BlockTable := List (String × List (String × Block))

/-- The state of a rendering. -/
structure State where
  /-- The text so far. -/
  out : String := ""
  /-- The frames, the innermost first. -/
  frames : List Frame
  /-- The names that are seen where no frame has them. -/
  base : List (String × Value)
  /-- The closures by number. -/
  closures : Array (List (String × Value)) := #[]
  /-- The name spaces by number. -/
  spaces : Array (List (String × Value)) := #[]
  /-- The loops by number. -/
  loops : Array LoopRecord := #[]
  /-- Whether values are escaped. -/
  escape : Bool := false
  /-- Whether the text is thrown away. -/
  discarding : Bool := false
  /-- How deep the frames stand in other templates and routines. -/
  depth : Nat := 0
  /-- The name of the template that is rendered. -/
  template : String
  /-- The line that is rendered. -/
  line : Nat := 1
  /-- The blocks. -/
  blocks : BlockTable := []
  /-- The block that is rendered, and the place of its body. -/
  block : Option (String × Nat) := none
  /-- The template that the rendered one extends, and the text before it was named. -/
  parent : Option (Parsed × String) := none
  /-- The names of the templates that have been extended. -/
  extended : List String := []
  /-- The text that filters apply to. -/
  captured : Value := .undefined

/-! ### Values that change -/

namespace Value

mutual

/-- A value with the members of each name space in it replaced; `members` gives the new ones. -/
def renewed (members : Nat → List (String × Value) → List (String × Value)) : Value → Value
  | list items => list (renewedAll members items)
  | iterable items sized => iterable (renewedAll members items) sized
  | group key items => group (key.renewed members) (renewedAll members items)
  | dict pairs => dict (renewedPairs members pairs)
  | named pairs => named (renewedNamed members pairs)
  | library whole pairs => library whole (renewedNamed members pairs)
  | nameSpace id pairs => nameSpace id (members id pairs)
  | v => v

/-- Values with the members of each name space in them replaced. -/
def renewedAll (members : Nat → List (String × Value) → List (String × Value)) :
    List Value → List Value
  | [] => []
  | v :: rest => v.renewed members :: renewedAll members rest

/-- The members of a map with those of each name space in them replaced. -/
def renewedPairs (members : Nat → List (String × Value) → List (String × Value)) :
    List (Value × Value) → List (Value × Value)
  | [] => []
  | (key, v) :: rest => (key, v.renewed members) :: renewedPairs members rest

/-- Members with names with those of each name space in them replaced. -/
def renewedNamed (members : Nat → List (String × Value) → List (String × Value)) :
    List (String × Value) → List (String × Value)
  | [] => []
  | (name, v) :: rest => (name, v.renewed members) :: renewedNamed members rest

end

/-- A value with the present members of each name space in it. Name spaces may hold each other; they
are followed some steps deep. -/
def upToDate (spaces : Array (List (String × Value))) : Nat → Value → Value
  | 0, v => v
  | n + 1, v =>
    v.renewed fun id old =>
      (spaces.getD id old).map fun (name, w) => (name, upToDate spaces n w)

end Value

/-- A step of a rendering. -/
abbrev Run := StateT State (Except Error)

namespace Run

/-- The greatest depth of frames. -/
def maxDepth : Nat := 500

/-- Refuses to go deeper than the greatest depth. -/
def checkDepth : Run Unit := do
  let s ← get
  if s.frames.length + s.depth > maxDepth then throw (.invalid "recursion limit exceeded")

/-- A step at a line of the template, to which its failure belongs. -/
def placed {α : Type} (line : Nat) (step : Run α) : Run α := fun s =>
  match step { s with line } with
  | .ok (a, t) => .ok (a, { t with line := s.line })
  | .error e => .error (e.placedAt s.template line)

/-- A step at the line of an expression. -/
def placedAs {α : Type} (e : Expr) (step : Run α) : Run α :=
  match e with
  | .located line _ => placed line step
  | _ => step

/-- Adds text. -/
def write (text : String) : Run Unit :=
  modify fun s => { s with out := s.out ++ text }

/-- The text that a step adds, which is not added. -/
def capture (step : Run Unit) : Run String := do
  let before ← get
  modify fun s => { s with out := "", discarding := false }
  step
  let text := (← get).out
  modify fun s => { s with out := before.out, discarding := before.discarding }
  return text

/-- A step whose text is thrown away. -/
def discarded {α : Type} (step : Run α) : Run α := do
  let before ← get
  modify fun s => { s with discarding := true }
  let a ← step
  modify fun s => { s with out := before.out, discarding := before.discarding }
  return a

/-- A step inside a frame of its own. -/
def inFrame {α : Type} (frame : Frame) (step : Run α) : Run α := do
  checkDepth
  modify fun s => { s with frames := frame :: s.frames }
  let a ← step
  modify fun s => { s with frames := s.frames.tail }
  return a

/-- Changes the innermost frame. -/
def changeFrame (f : Frame → Frame) : Run Unit :=
  modify fun s =>
    match s.frames with
    | [] => s
    | frame :: rest => { s with frames := f frame :: rest }

/-- Gives a name a value. -/
def store (name : String) (v : Value) : Run Unit := do
  changeFrame fun frame => { frame with locals := bindName name v frame.locals }
  match ((← get).frames.head?.bind (·.closure)) with
  | some id => modify fun s => { s with closures := s.closures.modify id (bindName name v) }
  | none => pure ()

/-- The functions that every template knows. -/
def functionNames : List String := ["range", "dict", "namespace", "debug"]

/-- The value of a name in a frame. -/
def frameLookup? (name : String) (frame : Frame) : Option Value :=
  (frame.locals.lookup name).or (if name = "loop" then frame.loop else none)

/-- How deep name spaces that hold each other are followed. -/
def spaceDepth : Nat := 4

/-- A value brought up to date. -/
def settled (v : Value) : Run Value := do
  let s ← get
  match v with
  | .loop id .. => return (s.loops[id]?.map (·.current)).getD v
  | v => return if s.spaces.isEmpty then v else v.upToDate s.spaces spaceDepth

/-- The value of a name. -/
def lookup? (name : String) : Run (Option Value) := do
  let s ← get
  match (s.frames.findSome? (frameLookup? name)).or (s.base.lookup name) with
  | some v => return some (← settled v)
  | none => return if functionNames.contains name then some (.function name) else none

/-- All names that are seen, with their values. -/
def visible (s : State) : List (String × Value) :=
  let all := s.frames.flatMap fun frame =>
    frame.locals ++ (frame.loop.map fun v => ("loop", v)).toList
  (all ++ s.base).foldr (fun (name, v) names => bindName name v names) []

/-- The closure of the innermost frame. -/
def sharedClosure : Run Nat := do
  let s ← get
  match s.frames.head?.bind (·.closure) with
  | some id => return id
  | none =>
    let id := s.closures.size
    modify fun s => { s with closures := s.closures.push (visible s) }
    changeFrame fun frame => { frame with closure := some id }
    return id

/-- Whether a value counts as true; one that is missing does not even count as false. -/
def truthOf (v : Value) : Run Bool := do
  if v.isMissing then throw .undefinedValue
  return v.truth

/-- Adds the text of a value. -/
def emit (v : Value) : Run Unit := do
  if v.isMissing then throw .undefinedValue
  write (if (← get).escape then v.escaped else v.shown)

/-- A text that was rendered, as a value. -/
def rendered (text : String) : Run Value := do
  return .text text (← get).escape

end Run

end EntityForge.Template
