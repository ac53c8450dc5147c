import EntityForge.Model.Extraction
import EntityForge.Storage.Tree
import EntityForge.Xml.Document

/-!
# Loading entities

Entities are loaded from a text, from a file of a storage, or from a stream of bytes that arrives in
pieces and may break off. A stream or file is read to its end before anything else happens, so the
sizes of the pieces do not matter and a stream that breaks gives no entities. A piece without bytes
is the end of a stream, whatever would come after it. One byte order mark in front of the text is
passed over.
-/

namespace EntityForge.Model

/-- Why nothing can be loaded. -/
inductive LoadError
  /-- A file cannot be read. -/
  | unreadableFile (path : Storage.Path) (cause : Storage.Cause)
  /-- A stream breaks off, with a message. -/
  | brokenStream (message : String)
  /-- A stream is not text in UTF-8. -/
  | undecodableStream
  /-- The text is no document. -/
  | document (error : Xml.DocumentError)
  /-- The document gives no entities. -/
  | extraction (error : ExtractionError)
  deriving DecidableEq, Repr

/-- The wording of an error. -/
def LoadError.message : LoadError → String
  | unreadableFile path cause => s!"failed to read file {path.text}: {cause.message}"
  | brokenStream message => s!"failed to read PDM input: {message}"
  | undecodableStream => s!"failed to read PDM input: {Storage.Cause.notText.message}"
  | document error => error.message
  | extraction error => error.message

/-- The wordings of what is behind an error. -/
def LoadError.behind : LoadError → List String
  | unreadableFile _ cause => [cause.message]
  | brokenStream message => [message]
  | undecodableStream => [Storage.Cause.notText.message]
  | document _ | extraction _ => []

/-- A stream as its reader meets it. -/
inductive ByteStream
  /-- The stream ends. -/
  | done
  /-- The stream breaks off. -/
  | broken (message : String)
  /-- What one read gives, and what follows it. No bytes are the end. -/
  | piece (bytes : ByteArray) (rest : ByteStream)

/-- The bytes of a stream up to its end, after those read before. -/
def ByteStream.readAll (before : ByteArray) : ByteStream → Except LoadError ByteArray
  | done => .ok before
  | broken message => .error (.brokenStream message)
  | piece bytes rest => if bytes.isEmpty then .ok before else rest.readAll (before ++ bytes)

/-- The entities of a document, with its errors among the errors of loading. -/
def extract (naming : Naming) (types : TypeTable) (root : Xml.Element) :
    Except LoadError (List Entity) :=
  (entitiesOfDocument naming types root).mapError .extraction

/-- The document in a text. -/
def parse (text : String) : Except LoadError Xml.Element :=
  (Xml.parseDocument text).mapError .document

/-- A text without a byte order mark in front. -/
def withoutMark (text : String) : String :=
  match text.toList with
  | '\uFEFF' :: rest => String.ofList rest
  | _ => text

/-- The entities in a text. -/
def loadText (naming : Naming) (text : String) : Except LoadError (List Entity) := do
  extract naming .standard (← parse (withoutMark text))

/-- The entities in a file. -/
def loadFile (storage : Storage.Tree) (naming : Naming) (path : Storage.Path) :
    Except LoadError (List Entity) := do
  loadText naming (← (storage.readText path).mapError (.unreadableFile path))

/-- The entities in a stream. -/
def loadStream (naming : Naming) (stream : ByteStream) : Except LoadError (List Entity) := do
  let bytes ← stream.readAll .empty
  match String.fromUTF8? bytes with
  | some text => loadText naming text
  | none => .error .undecodableStream

end EntityForge.Model
