import EntityForge.Toml.Scalar
import EntityForge.Toml.Table

/-!
# Reading of TOML documents

What a document says: its lines one after another, with names and values for what is written. A
fault of the syntax anywhere in the document comes before one of what is written there.
-/

namespace EntityForge.Toml

/-- The greatest number of names in a path. -/
def maxNames : Nat := 80

/-- The names of a path. -/
def pathOf (ws : List Written) : Except Fault (List Key) := do
  let keys ← ws.mapM fun w => do return (w.span, ← w.name)
  if maxNames < keys.length then
    throw { complaint := .malformed "recursion limit", span := none }
  return keys

mutual

/-- The value of a node. -/
def Node.value : Node → Except Fault (Span × Value)
  | .scalar w => do return (w.span, ← w.value)
  | .array span items => do return (span, .array (← valuesOf items))
  | .inline span members => do return (span, .table .inline (← membersOf members []))

/-- The values of nodes. -/
def valuesOf : List Node → Except Fault (List (Span × Value))
  | [] => return []
  | node :: rest => do
    let v ← node.value
    return v :: (← valuesOf rest)

/-- Members with those of a table in braces. -/
def membersOf : List (List Written × Node) → Members → Except Fault Members
  | [], done => return done
  | (ws, node) :: rest, done => do
    let path ← pathOf ws
    let v ← node.value
    membersOf rest (← addDotted path v done)

end

/-- A document with a further line. -/
def Draft.withLine (d : Draft) : Line → Except Fault Draft
  | .member ws node => do
    let path ← pathOf ws
    let v ← node.value
    d.withMember path v
  | .header listed span ws => do
    let root ← d.finished
    let path ← pathOf ws
    Draft.withHeader { root, header := none, current := root } ⟨listed, span, path⟩

/-- The members of a document. -/
def read (source : String) : Except Fault Members :=
  let members := do
    let lines ← linesOf source
    (← lines.foldlM Draft.withLine {}).finished
  members.mapError fun f => { f with source }

end EntityForge.Toml
