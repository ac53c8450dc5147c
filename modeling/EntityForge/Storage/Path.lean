/-!
# Paths

A path is a text with slashes. Its components leave out empty pieces and the dots that name a
directory itself, except a dot at the very start; two paths with the same components are the same
path. Joining puts one path behind another as text: an absolute path replaces what is before it, and
joining the empty path leaves a slash at the end.
-/

namespace EntityForge.Storage

/-- A path as it is written. -/
structure Path where
  /-- The text of the path. -/
  text : String
  deriving DecidableEq, Repr

/-- A step of a path. -/
inductive Component
  /-- The root of all paths. -/
  | root
  /-- The directory that a relative path starts from, where the path names it. -/
  | here
  /-- The directory above. -/
  | up
  /-- Something of a name. -/
  | named (name : String)
  deriving DecidableEq, Repr

/-- The pieces of a text between slashes. -/
def pieces (text : String) : List String :=
  (text.toList.splitOnP (· == '/')).map String.ofList

/-- A component as it is written. -/
def Component.text : Component → String
  | root => "/"
  | here => "."
  | up => ".."
  | named name => name

/-- The component that a piece after the start of a path stands for, if it stands for one. -/
def Component.ofPiece? : String → Option Component
  | "" | "." => none
  | ".." => some up
  | name => some (named name)

namespace Path

/-- Whether a path starts at the root. -/
def isAbsolute (p : Path) : Bool :=
  p.text.toList.head? == some '/'

/-- The components of a path. -/
def components (p : Path) : List Component :=
  match pieces p.text with
  | first :: rest =>
    let start :=
      if p.isAbsolute then [Component.root]
      else if first == "." then [Component.here]
      else (Component.ofPiece? first).toList
    start ++ rest.filterMap Component.ofPiece?
  | [] => []

/-- A path behind another. -/
def join (p q : Path) : Path :=
  if q.isAbsolute then q
  else if p.text = "" then q
  else if p.text.toList.getLast? == some '/' then ⟨p.text ++ q.text⟩
  else ⟨p.text ++ "/" ++ q.text⟩

/-- The name at the end of a path, if it ends in one. -/
def fileName? (p : Path) : Option String :=
  match p.components.getLast? with
  | some (.named name) => some name
  | _ => none

/-- The characters of a path, last first, without slashes and lone dots at its end. -/
def dropTail : List Char → List Char
  | '/' :: rest => if rest.isEmpty then ['/'] else dropTail rest
  | '.' :: '/' :: rest => dropTail ('/' :: rest)
  | cs => cs
  termination_by cs => cs.length

/-- The path without its last component. The empty path and the root have none. -/
def parent? (p : Path) : Option Path :=
  match p.components.getLast? with
  | none | some .root => none
  | some last =>
    let tail := dropTail p.text.toList.reverse
    let before := tail.drop last.text.length
    some ⟨String.ofList (dropTail before).reverse⟩

/-- The path without its last component, unless nothing is left. -/
def properParent? (p : Path) : Option Path :=
  p.parent?.filter (·.text != "")

/-- Whether two paths have the same components. -/
def same (p q : Path) : Bool :=
  p.components == q.components

/-- The path and those above it, the longest first. -/
def ancestorsWithin (fuel : Nat) (p : Path) : List Path :=
  match fuel with
  | 0 => []
  | n + 1 => p :: p.parent?.elim [] (ancestorsWithin n)

/-- The path and those above it, the longest first. -/
def ancestors (p : Path) : List Path :=
  ancestorsWithin (p.text.length + 1) p

end Path

end EntityForge.Storage
