import EntityForge.Toml.Value

/-!
# Building of tables

The members of a document come one after another, and headers say into which table the next ones go.
A table can be added to under a dotted name if it came to be that way itself, and through a header
unless it stands in braces. No name is given twice.
-/

namespace EntityForge.Toml

/-- The fault of a name that is there already. -/
def duplicate (key : Key) : Fault :=
  .textAt "duplicate key" key.1.start key.1.stop

/-- The fault of a name that stands for something to which nothing can be added. -/
def cannotExtend (key : Key) (v : Value) : Fault :=
  .textAt s!"cannot extend value of type {v.kind} with a dotted key" key.1.start key.1.stop

/-- The members that a value has inside, and the value with others in their place. -/
def opened (byName : Bool) (key : Key) (v : Value) :
    Except Fault (Members × (Members → Value)) :=
  match v with
  | .table .inline _ => throw (cannotExtend key v)
  | .table .header members =>
    if byName then throw (duplicate key) else return (members, .table .header)
  | .table form members => return (members, .table form)
  | .tables items =>
    match items.getLast? with
    | some members => return (members, fun new => .tables (items.dropLast ++ [new]))
    | none => throw (cannotExtend key v)
  | _ => throw (cannotExtend key v)

/-- The members with those below a name changed. A table is made if there is none. -/
def changeAt {α : Type} (byName : Bool) (key : Key)
    (change : Members → Except Fault (Members × α)) : Members → Except Fault (Members × α)
  | [] => do
    let (members, a) ← change []
    return ([(key, (key.1, .table (if byName then .dotted else .implied) members))], a)
  | (k, (span, v)) :: rest => do
    if k.2 = key.2 then
      let (members, back) ← opened byName key v
      let (members, a) ← change members
      return ((k, (span, back members)) :: rest, a)
    else
      let (rest, a) ← changeAt byName key change rest
      return ((k, (span, v)) :: rest, a)

/-- The members with those at the end of a path of names changed. -/
def changeUnder {α : Type} (byName : Bool) (change : Members → Except Fault (Members × α)) :
    List Key → Members → Except Fault (Members × α)
  | [], members => change members
  | key :: path, members => changeAt byName key (changeUnder byName change path) members

/-- The value of a name among members. -/
def find? (name : String) (members : Members) : Option (Span × Value) :=
  (members.find? (·.1.2 == name)).map (·.2)

/-- The members with one more. -/
def addMember (key : Key) (v : Span × Value) (members : Members) : Except Fault Members :=
  if (find? key.2 members).isSome then throw (duplicate key) else return members ++ [(key, v)]

/-- Whether there is a table of a form at the end of a path of names. -/
def endsIn (form : TableForm) : List Key → Members → Bool
  | [], _ => false
  | key :: path, members =>
    match find? key.2 members with
    | some (_, .table f inside) => if path.isEmpty then f == form else endsIn form path inside
    | some (_, .tables items) => endsIn form path (items.getLast?.getD [])
    | _ => false

/-- The members with a value under a dotted name. The table that the value goes into has to be one
that came to be by dotted names. -/
def addDotted (path : List Key) (v : Span × Value) (members : Members) : Except Fault Members := do
  match path.getLast? with
  | none => return members
  | some key =>
    let (tables, _) ← changeUnder true (fun inside => return (inside, ())) path.dropLast members
    if 1 < path.length && !endsIn .dotted path.dropLast tables then throw (duplicate key)
    let (members, _) ← changeUnder true
      (fun inside => do return (← addMember key v inside, ())) path.dropLast tables
    return members

/-! ### Headers -/

/-- A header that has been read. -/
structure Header where
  /-- Whether it stands for one more table of a list. -/
  listed : Bool
  /-- The place. -/
  span : Span
  /-- The names. -/
  path : List Key

/-- A document up to some line. -/
structure Draft where
  /-- The members of the document. -/
  root : Members := []
  /-- The last header. -/
  header : Option Header := none
  /-- The members below the last header. -/
  current : Members := []

namespace Draft

/-- The members without that of a header, which has to be the place of other tables so far, and its
own members. -/
def taken (key : Key) (members : Members) : Except Fault (Members × Members) :=
  match find? key.2 members with
  | none => return (members, [])
  | some (_, .table .implied inside) => return (members.filter (·.1.2 != key.2), inside)
  | some _ => throw (duplicate key)

/-- The members with one more table in the list of a header. -/
def withListed (h : Header) (key : Key) (current members : Members) : Except Fault Members :=
  match find? key.2 members with
  | none => return members ++ [(key, (h.span, .tables [current]))]
  | some (_, .tables _) =>
    return members.map fun (k, (span, v)) =>
      match v with
      | .tables items =>
        if k.2 = key.2 then (k, (span, .tables (items ++ [current]))) else (k, (span, v))
      | v => (k, (span, v))
  | some _ => throw (duplicate key)

/-- The members of a document up to some line. -/
def finished (d : Draft) : Except Fault Members := do
  match d.header with
  | none => return d.current
  | some h =>
    match h.path.getLast? with
    | none => return d.root
    | some key =>
      let put (members : Members) : Except Fault (Members × Unit) := do
        if h.listed then return (← withListed h key d.current members, ())
        else return (members ++ [(key, (h.span, .table .header d.current))], ())
      let (root, _) ← changeUnder false put h.path.dropLast d.root
      return root

/-- A document with a further header. -/
def withHeader (d : Draft) (h : Header) : Except Fault Draft := do
  let root ← d.finished
  if h.listed then return { root, header := some h }
  match h.path.getLast? with
  | none => return { root, header := some h }
  | some key =>
    let (root, current) ← changeUnder false (taken key) h.path.dropLast root
    return { root, header := some h, current }

/-- A document with a further member. -/
def withMember (d : Draft) (path : List Key) (v : Span × Value) : Except Fault Draft := do
  return { d with current := ← addDotted path v d.current }

end Draft

end EntityForge.Toml
