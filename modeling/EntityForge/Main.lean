import EntityForge.Calendar.Instant
import EntityForge.Command.Session
import Std.Time.DateTime.Timestamp

/-!
# The program

The files below the working directory are read, together with those that the words of the command
line name elsewhere; the session runs on them, and what it changed is written back.
-/

namespace EntityForge

open Storage (Entry Path Place Tree)

/-- The place that a text names from the root. -/
def placeOfText (text : String) : Place :=
  (Storage.pieces text).filter (· != "")

/-- The text that names a place from the root. -/
def textOfPlace (place : Place) : String :=
  "/" ++ String.intercalate "/" place

/-- A directory entry and everything below it. Links are followed to files only. -/
partial def entriesBelow (e : IO.FS.DirEntry) : IO (List (Place × Entry)) := do
  let place := placeOfText e.path.toString
  match (← e.path.symlinkMetadata).type with
  | .dir =>
    let below ← (← e.path.readDir).toList.mapM entriesBelow
    return (place, .directory) :: below.flatten
  | _ =>
    match ← (IO.FS.readBinFile e.path).toBaseIO with
    | .ok content => return [(place, .file content)]
    | .error _ => return []

/-- The directories above a place. -/
def entriesAbove (place : Place) : List (Place × Entry) :=
  ((List.range place.length).drop 1).map fun n => (place.take n, .directory)

/-- What a word of the command line names, with the directories above it. -/
def entriesNamed (word : String) : IO (List (Place × Entry)) := do
  match ← (IO.FS.realPath word).toBaseIO with
  | .error _ => return []
  | .ok path =>
    let place := placeOfText path.toString
    match ← path.readDir.toBaseIO, ← (IO.FS.readBinFile path).toBaseIO with
    | .ok found, _ =>
      let below ← found.toList.mapM entriesBelow
      return entriesAbove place ++ (place, .directory) :: below.flatten
    | .error _, .ok content => return entriesAbove place ++ [(place, .file content)]
    | .error _, .error _ => return []

/-- The tree with entries at places where it has none. -/
def withEntries (t : Tree) (entries : List (Place × Entry)) : Tree :=
  entries.foldl (fun t (place, e) => if (t.entry? place).isSome then t else t.set place e) t

/-- The storage that a session starts from. -/
def readStorage (words : List String) : IO Tree := do
  let here ← entriesNamed "."
  let workingPlace := placeOfText (← IO.FS.realPath ".").toString
  let named ← (words.filter fun w => w.startsWith "/" || w.startsWith "..").mapM entriesNamed
  return withEntries { entries := here, workingPlace } named.flatten

/-- Writes back what a session changed. -/
def writeStorage (before after : Tree) : IO Unit := do
  for (place, e) in after.entries do
    if before.entry? place != some e then
      match e with
      | .directory => IO.FS.createDirAll (textOfPlace place)
      | .file content => IO.FS.writeBinFile (textOfPlace place) content

/-- The present time. -/
def presentTime : IO String := do
  let nanos : Int := (← Std.Time.Timestamp.now).toNanosecondsSinceUnixEpoch.val
  let micros := nanos / 1000
  let t : Calendar.Instant := ⟨micros / 1000000, (micros % 1000000).toNat * 1000⟩
  return t.toText

end EntityForge

open EntityForge in
/-- One run of the program on the files of the working directory. -/
def main (words : List String) : IO UInt32 := do
  let start ← IO.monoMsNow
  let before ← readStorage words
  let filter ← IO.getEnv "RUST_LOG"
  let elapsed := toString ((← IO.monoMsNow) - start)
  let around : Command.Surroundings := { filter, clock := { now := ← presentTime, elapsed } }
  let outcome := Command.session around before words
  writeStorage before outcome.storage
  IO.print outcome.output
  IO.eprint outcome.errors
  return outcome.exitCode.toUInt32
