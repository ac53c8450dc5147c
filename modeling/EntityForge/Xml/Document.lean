import EntityForge.Text.Blank
import EntityForge.Xml.Element
import EntityForge.Xml.Event

/-!
# Documents

The events of a text make a document when every tag is well formed, every reference inside an
element resolves and no element is left open. The document is its first top-level element; what
stands beside that element is passed over.

Events are consumed one at a time against a stack of the elements that are open. The text of an
element arrives in pieces, around references and between children, and is trimmed as a whole when
the element closes.
-/

namespace EntityForge.Xml

/-- Why a text is no document. -/
inductive DocumentError
  /-- The text is at fault after a number of bytes. -/
  | malformed (position : Nat) (fault : Fault)
  /-- There is no element. -/
  | noRoot
  deriving DecidableEq, Repr

/-- The wording of an error. -/
def DocumentError.message : DocumentError → String
  | malformed position fault => s!"malformed XML at byte {position}: {fault.message}"
  | noRoot => "PDM document has no root element"

/-- An element whose closing tag is still to come. -/
structure OpenElement where
  /-- The local name. -/
  name : String
  /-- The attributes by local name. -/
  attributes : List (String × String)
  /-- The child elements that are complete, the latest first. -/
  latest : List Element := []
  /-- The text read so far. -/
  text : String := ""

namespace OpenElement

/-- Opens the element of a start tag. -/
def ofTag (tag : List Char) : Except Fault OpenElement :=
  (Xml.attributes tag).map fun attributes =>
    ⟨String.ofList (localName (tagName tag)), attributes, [], ""⟩

/-- Adds a piece of text. -/
def addText (e : OpenElement) (piece : List Char) : OpenElement :=
  { e with text := e.text ++ String.ofList piece }

/-- Adds a complete child. -/
def addChild (e : OpenElement) (c : Element) : OpenElement :=
  { e with latest := c :: e.latest }

/-- The element as it is once its closing tag has been read. -/
def close (e : OpenElement) : Element :=
  ⟨e.name, e.attributes, e.latest.reverse, Text.trim e.text⟩

end OpenElement

/-- What is known of a document part way through its events. -/
structure Assembly where
  /-- The open elements, the innermost first. -/
  stack : List OpenElement := []
  /-- The first top-level element, once it is complete. -/
  root : Option Element := none

namespace Assembly

/-- Hands a complete element to the innermost open one. At the top level only the first counts. -/
def attach (a : Assembly) (e : Element) : Assembly :=
  match a.stack with
  | [] => { a with root := a.root.or (some e) }
  | top :: outer => { a with stack := top.addChild e :: outer }

/-- Adds text to the innermost open element. Outside all elements it is passed over. -/
def addText (a : Assembly) (piece : List Char) : Assembly :=
  match a.stack with
  | [] => a
  | top :: outer => { a with stack := top.addText piece :: outer }

/-- The assembly after one more event. -/
def step (a : Assembly) : Event → Except Fault Assembly
  | .start tag => (OpenElement.ofTag tag).map fun e => { a with stack := e :: a.stack }
  | .empty tag => (OpenElement.ofTag tag).map fun e => a.attach e.close
  | .close =>
    match a.stack with
    | [] => .ok a
    | top :: outer => .ok (attach { a with stack := outer } top.close)
  | .text content | .cdata content => .ok (a.addText content)
  | .reference name =>
    match a.stack with
    | [] => .ok a
    | _ :: _ => (resolveReference name).map fun c => a.addText [c]
  | .aside => .ok a

/-- The document that the events complete. -/
def run (a : Assembly) : Events → Except DocumentError Element
  | .done position =>
    match a.stack with
    | top :: _ => .error (.malformed position (.endInside top.name))
    | [] =>
      match a.root with
      | some root => .ok root
      | none => .error .noRoot
  | .fail position fault => .error (.malformed position fault)
  | .next event position rest =>
    match a.step event with
    | .ok a' => a'.run rest
    | .error fault => .error (.malformed position fault)

end Assembly

/-- The root element of the document that a text holds. -/
def parseDocument (text : String) : Except DocumentError Element :=
  Assembly.run ⟨[], none⟩ (Events.ofText text)

end EntityForge.Xml
