import EntityForge.Command.Records
import EntityForge.CommandLine.Invocation

/-!
# Sessions

A session is one run of the program: from the words of a command line and the storage to what is
shown, the exit code and the storage afterwards. The lines of the journal go before an error
message, or to a file of their own; whether that file can be written is found out before anything
else.

The program adds a line to that file whenever it makes a record. Here all lines are added at once,
when the request has been carried out. That comes to the same unless the request itself reads the
file of the journal, as its document for one, or writes it.
-/

namespace EntityForge.Command

open CommandLine (Halt Invocation Keeping)
open Journal (Clock Hand)
open Storage (Path Tree)

/-- What a session finds around it, besides the storage. -/
structure Surroundings where
  /-- The filter that is set for journals, if one is. -/
  filter : Option String := none
  /-- The clock. -/
  clock : Clock

/-- What a session comes to. -/
structure Outcome where
  /-- The storage afterwards. -/
  storage : Tree
  /-- The exit code. -/
  exitCode : UInt8
  /-- What was shown. -/
  output : String := ""
  /-- What was told of errors and in the journal. -/
  errors : String := ""

/-- What a session comes to that carries nothing out. -/
def Outcome.ofHalt (storage : Tree) : Halt → Outcome
  | .shown text => { storage, exitCode := 0, output := text }
  | .lacking text => { storage, exitCode := 2, errors := text }
  | .refused r => { storage, exitCode := 2, errors := r.text }

/-- The storage with a text behind what a file holds. The file is made if it is missing. -/
def append (storage : Tree) (path : Path) (text : String) : Except Storage.Cause Tree := do
  let place ← storage.writablePlace path
  let before :=
    match storage.entry? place with
    | some (.file content) => content
    | _ => .empty
  return storage.set place (.file (before ++ text.toUTF8))

/-- The lines of the journal of a request. -/
def journalText (s : Surroundings) (keeping : Keeping) (storage : Tree) (r : Request) : String :=
  let hand : Hand := ⟨keeping.form, keeping.coloured, s.clock⟩
  hand.text ((r.records storage).filterMap (keeping.filter s.filter).shown?)

/-- Carries out a request, with some lines of a journal before an error message. -/
def carryOut (storage : Tree) (r : Request) (journal : String) : Outcome :=
  match r.run storage with
  | (storage', .ok output) => { storage := storage', exitCode := 0, output, errors := journal }
  | (storage', .error failure) =>
    { storage := storage', exitCode := 1, errors := journal ++ s!"error: {failure.message}\n" }

/-- Carries out an invocation. The lines of a journal that has its own file are added at the end. -/
def invoke (s : Surroundings) (storage : Tree) (i : Invocation) : Outcome :=
  match i.keeping.file with
  | none => carryOut storage i.request (journalText s i.keeping storage i.request)
  | some path =>
    match append storage path "" with
    | .error cause =>
      let errors := s!"error: failed to initialize logging: {cause.message}\n"
      { storage, exitCode := 1, errors }
    | .ok opened =>
      let outcome := carryOut opened i.request ""
      let journal := journalText s i.keeping opened i.request
      let storage' := (append outcome.storage path journal).toOption.getD outcome.storage
      { outcome with storage := storage' }

/-- One run of the program. -/
def session (s : Surroundings) (storage : Tree) (words : List String) : Outcome :=
  match CommandLine.readInvocation words with
  | .error halt => .ofHalt storage halt
  | .ok invocation => invoke s storage invocation

end EntityForge.Command
