import EntityForge.Storage.Path

/-!
# Stored files and directories

A storage knows the files and directories below its root and the directory that relative paths start
from. Paths are resolved step by step: every step but the last must be a directory that exists, two
dots go up from where the steps before have led, and a name has at most 255 bytes.

Operations either change the storage or fail for one cause and leave it as it was.

There are files and directories and nothing else. Links are left out, symbolic ones and hard ones,
so a file has one place and a directory is an entry of the one that two dots lead to. Permissions
and the room that is left are left out as well.
-/

namespace EntityForge.Storage

/-- Why an operation fails. -/
inductive Cause
  /-- Something on the path does not exist. -/
  | notFound
  /-- Something of that name exists already. -/
  | alreadyExists
  /-- A step of the path is a file. -/
  | notDirectory
  /-- A directory stands where a file is asked for. -/
  | isDirectory
  /-- A name or the whole path is too long. -/
  | nameTooLong
  /-- The path has a character that no path can have. -/
  | nulCharacter
  /-- The content is not text in UTF-8. -/
  | notText
  deriving DecidableEq, Repr

/-- The wording of a cause. -/
def Cause.message : Cause → String
  | notFound => "No such file or directory (os error 2)"
  | alreadyExists => "File exists (os error 17)"
  | notDirectory => "Not a directory (os error 20)"
  | isDirectory => "Is a directory (os error 21)"
  | nameTooLong => "File name too long (os error 36)"
  | nulCharacter => "file name contained an unexpected NUL byte"
  | notText => "stream did not contain valid UTF-8"

/-- What stands at a place. -/
inductive Entry
  /-- A file of some bytes. -/
  | file (content : ByteArray)
  /-- A directory. -/
  | directory

/-- Files are equal when their bytes are. -/
instance : DecidableEq Entry
  | .directory, .directory => isTrue rfl
  | .directory, .file _ | .file _, .directory => isFalse (by intro h; cases h)
  | .file ⟨a⟩, .file ⟨b⟩ =>
    if h : a = b then isTrue (by rw [h]) else isFalse (by intro same; cases same; exact h rfl)

/-- Whether an entry is a directory. -/
def Entry.isDirectory : Entry → Bool
  | directory => true
  | file _ => false

/-- The names that lead from the root to a place. -/
abbrev Place := List String

/-- The stored files and directories. -/
structure Tree where
  /-- The entries below the root with their places. -/
  entries : List (Place × Entry) := []
  /-- The place that relative paths start from. -/
  workingPlace : Place := []
  deriving DecidableEq

namespace Tree

/-- The entry at a place. The root is a directory. -/
def entry? (t : Tree) : Place → Option Entry
  | [] => some .directory
  | place => t.entries.lookup place

/-- Puts an entry at a place, instead of the one there if there is one. -/
def setEntry (place : Place) (e : Entry) : List (Place × Entry) → List (Place × Entry)
  | [] => [(place, e)]
  | (p, old) :: rest =>
    if p = place then (place, e) :: rest else (p, old) :: setEntry place e rest

/-- The tree with an entry at a place. -/
def set (t : Tree) (place : Place) (e : Entry) : Tree :=
  { t with entries := setEntry place e t.entries }

/-- The tree without what stands at a place and below it. -/
def remove (t : Tree) (place : Place) : Tree :=
  { t with entries := t.entries.filter fun (p, _) => !place.isPrefixOf p }

/-- Whether a name is short enough. -/
def nameFits (name : String) : Bool :=
  name.utf8ByteSize ≤ 255

/-- The place that one step leads to from a directory. -/
def stepInto (t : Tree) (place : Place) (step : String) : Except Cause Place :=
  if step = "." then .ok place
  else if step = ".." then .ok place.dropLast
  else if nameFits step then
    match t.entry? (place ++ [step]) with
    | some .directory => .ok (place ++ [step])
    | some (.file _) => .error .notDirectory
    | none => .error .notFound
  else .error .nameTooLong

/-- The place that steps from a directory lead to, all through directories. -/
def descend (t : Tree) (place : Place) : List String → Except Cause Place
  | [] => .ok place
  | step :: rest => do t.descend (← t.stepInto place step) rest

/-- What a path names, once the directory before its last step has been found. -/
inductive Target
  /-- A directory by way of dots or of the root, which exists in any case. -/
  | directory (place : Place)
  /-- A name in a directory that exists. -/
  | named (place : Place)

/-- The target of a path. The flag says whether a slash ends it. -/
def locate (t : Tree) (p : Path) : Except Cause (Target × Bool) :=
  if p.text = "" then .error .notFound
  else if p.text.toList.contains '\x00' then .error .nulCharacter
  else if 4096 ≤ p.text.utf8ByteSize then .error .nameTooLong
  else
    let start := if p.isAbsolute then [] else t.workingPlace
    let steps := (pieces p.text).filter (· != "")
    let slash := p.text.toList.getLast? == some '/'
    match steps.getLast? with
    | none => .ok (.directory start, slash)
    | some last => do
      let place ← t.descend start steps.dropLast
      if last = "." then return (.directory place, slash)
      else if last = ".." then return (.directory place.dropLast, slash)
      else if nameFits last then return (.named (place ++ [last]), slash)
      else throw .nameTooLong

/-- What stands at the end of a path. -/
def find (t : Tree) (p : Path) : Except Cause Entry := do
  match ← t.locate p with
  | (.directory _, _) => return .directory
  | (.named place, slash) =>
    match t.entry? place with
    | none => throw .notFound
    | some .directory => return .directory
    | some (.file content) => if slash then throw .notDirectory else return .file content

/-- Whether something stands at the end of a path. -/
def exists? (t : Tree) (p : Path) : Bool :=
  (t.find p).isOk

/-- Whether a directory stands at the end of a path. -/
def isDirectory (t : Tree) (p : Path) : Bool :=
  match t.find p with
  | .ok .directory => true
  | _ => false

/-- Whether a file stands at the end of a path. -/
def isFile (t : Tree) (p : Path) : Bool :=
  match t.find p with
  | .ok (.file _) => true
  | _ => false

/-- The bytes of a file. -/
def readBytes (t : Tree) (p : Path) : Except Cause ByteArray := do
  match ← t.find p with
  | .directory => throw .isDirectory
  | .file content => return content

/-- The text of bytes in UTF-8. -/
def decode (content : ByteArray) : Except Cause String :=
  match String.fromUTF8? content with
  | some text => .ok text
  | none => .error .notText

/-- The text of a file. -/
def readText (t : Tree) (p : Path) : Except Cause String := do
  decode (← t.readBytes p)

/-- The place of the file that writing to a path creates or replaces. -/
def writablePlace (t : Tree) (p : Path) : Except Cause Place := do
  match ← t.locate p with
  | (.directory _, _) => throw .isDirectory
  | (.named place, slash) =>
    if slash then throw .isDirectory
    else
      match t.entry? place with
      | some .directory => throw .isDirectory
      | _ => return place

/-- Writes a file, instead of the one there if there is one. -/
def writeBytes (t : Tree) (p : Path) (content : ByteArray) : Except Cause Tree := do
  return t.set (← t.writablePlace p) (.file content)

/-- Writes a text to a file. -/
def writeText (t : Tree) (p : Path) (text : String) : Except Cause Tree :=
  t.writeBytes p text.toUTF8

/-- Makes a directory in one that exists. -/
def makeDirectory (t : Tree) (p : Path) : Except Cause Tree := do
  match ← t.locate p with
  | (.directory _, _) => throw .alreadyExists
  | (.named place, _) =>
    match t.entry? place with
    | some _ => throw .alreadyExists
    | none => return t.set place .directory

/-- Makes the directories of some paths in order, passing over those that are there. The tree is
returned also where a step fails, with the directories made before it. -/
def makeEach (t : Tree) : List Path → Tree × Except Cause Unit
  | [] => (t, .ok ())
  | p :: rest =>
    match t.makeDirectory p with
    | .ok t' => t'.makeEach rest
    | .error cause =>
      if cause = .alreadyExists ∧ t.isDirectory p then t.makeEach rest else (t, .error cause)

/-- The paths, the shortest first, whose directories are missing. The longest path above them that
can be made or is there already is not among them, unless it can be made. -/
def missingDirectories (t : Tree) : List Path → List Path → Except Cause (List Path)
  | missing, [] => .ok missing
  | missing, p :: above =>
    if p.components = [] then .ok missing
    else
      match t.makeDirectory p with
      | .ok _ => .ok (p :: missing)
      | .error .notFound => t.missingDirectories (p :: missing) above
      | .error cause =>
        if cause = .alreadyExists ∧ t.isDirectory p then .ok missing else .error cause

/-- Makes a directory and those above it that are missing. The tree is returned also where this
fails, with the directories made before. -/
def makeDirectories (t : Tree) (p : Path) : Tree × Except Cause Unit :=
  match t.missingDirectories [] p.ancestors with
  | .error cause => (t, .error cause)
  | .ok missing => t.makeEach missing

end Tree

end EntityForge.Storage
