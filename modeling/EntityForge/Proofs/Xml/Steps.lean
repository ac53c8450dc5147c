import EntityForge.Proofs.Outcome
import EntityForge.Xml.Document

/-!
# Steps of an assembly

An event that is not at fault opens an element, hands a complete one over, adds to the text of the
innermost one, or is passed over. What an assembly keeps from step to step follows case by case: the
first element that was handed over outside all others stays the root, and the names of the open
elements are those of the tags that have not been closed.
-/

namespace EntityForge.Xml

open Outcome

/-- The local name of the element of a tag. -/
def nameOf (tag : List Char) : String :=
  String.ofList (localName (tagName tag))

/-- An event that makes up text. -/
def Event.IsContent : Event → Prop
  | .text _ | .cdata _ | .reference _ => True
  | .start _ | .empty _ | .close | .aside => False

/-- An event that is an element or begins one. -/
def Event.IsTag : Event → Prop
  | .start _ | .empty _ => True
  | .close | .text _ | .cdata _ | .reference _ | .aside => False

theorem Event.IsContent.not_isTag {event : Event} (h : event.IsContent) : ¬ event.IsTag := by
  cases event with
  | text content | cdata content | reference ref => exact id
  | start tag | empty tag | close | aside => exact h.elim

/-- An event that makes up a piece of text. -/
inductive Event.Gives : Event → List Char → Prop
  /-- A run of text is the piece. -/
  | text (content : List Char) : Gives (.text content) content
  /-- The content of a CDATA section is the piece. -/
  | cdata (content : List Char) : Gives (.cdata content) content
  /-- A reference is the character that it resolves to. -/
  | reference {ref : List Char} {c : Char} : resolveReference ref = .ok c →
    Gives (.reference ref) [c]

theorem Event.Gives.isContent {event : Event} {piece : List Char} (h : event.Gives piece) :
    event.IsContent := by
  cases h <;> trivial

/-- What an event that is not at fault does to an assembly. -/
inductive Steps : Assembly → Event → Assembly → Prop
  /-- A start tag opens an element. -/
  | opens {a : Assembly} {tag : List Char} {made : List (String × String)} :
    attributes tag = .ok made →
    Steps a (.start tag) { a with stack := ⟨nameOf tag, made, [], ""⟩ :: a.stack }
  /-- An empty-element tag hands over an element. -/
  | whole {a : Assembly} {tag : List Char} {made : List (String × String)} :
    attributes tag = .ok made → Steps a (.empty tag) (a.attach ⟨nameOf tag, made, [], ""⟩)
  /-- A closing tag hands over the innermost element. -/
  | closes {top : OpenElement} {outer : List OpenElement} {root : Option Element} :
    Steps ⟨top :: outer, root⟩ .close (Assembly.attach ⟨outer, root⟩ top.close)
  /-- A piece of text is added to that of the innermost element. -/
  | adds {top : OpenElement} {outer : List OpenElement} {root : Option Element} {event : Event}
    {piece : List Char} : event.Gives piece →
    Steps ⟨top :: outer, root⟩ event ⟨top.addText piece :: outer, root⟩
  /-- An aside changes nothing. -/
  | aside (a : Assembly) : Steps a .aside a
  /-- Outside all elements there is nothing to close or to add to. -/
  | passes {root : Option Element} {event : Event} : event = .close ∨ event.IsContent →
    Steps ⟨[], root⟩ event ⟨[], root⟩

theorem step_eq_ok {a a' : Assembly} {event : Event} :
    a.step event = .ok a' ↔ Steps a event a' := by
  obtain ⟨stack, root⟩ := a
  constructor
  · intro h
    cases event with
    | start tag =>
      obtain ⟨e, he, rfl⟩ := map_eq_ok.mp h
      obtain ⟨made, hmade, rfl⟩ := map_eq_ok.mp he
      exact .opens hmade
    | empty tag =>
      obtain ⟨e, he, rfl⟩ := map_eq_ok.mp h
      obtain ⟨made, hmade, rfl⟩ := map_eq_ok.mp he
      exact .whole hmade
    | close =>
      cases stack with
      | nil => cases h; exact .passes (.inl rfl)
      | cons top outer => cases h; exact .closes
    | text content =>
      cases stack with
      | nil => cases h; exact .passes (.inr trivial)
      | cons top outer => cases h; exact .adds (.text content)
    | cdata content =>
      cases stack with
      | nil => cases h; exact .passes (.inr trivial)
      | cons top outer => cases h; exact .adds (.cdata content)
    | reference ref =>
      cases stack with
      | nil => cases h; exact .passes (.inr trivial)
      | cons top outer =>
        obtain ⟨c, hc, rfl⟩ := map_eq_ok.mp h
        exact .adds (.reference hc)
    | aside => cases h; exact .aside _
  · intro h
    cases h with
    | opens hmade | whole hmade =>
      rw [Assembly.step, OpenElement.ofTag, hmade]
      rfl
    | closes | aside => rfl
    | adds hgives =>
      cases hgives with
      | text content | cdata content => rfl
      | reference hc =>
        simp only [Assembly.step, hc]
        rfl
    | passes hpassed =>
      rcases hpassed with rfl | hcontent
      · rfl
      · cases event with
        | text content | cdata content | reference ref => rfl
        | start tag | empty tag | close | aside => exact hcontent.elim

/-- Once there is a root, it is the document. -/
theorem Steps.root {a a' : Assembly} {root : Element} {event : Event} (h : Steps a event a')
    (hroot : a.root = some root) : a'.root = some root := by
  cases h with
  | opens | adds | aside | passes => exact hroot
  | whole =>
    obtain ⟨stack, r⟩ := a
    obtain rfl : r = some root := hroot
    cases stack <;> rfl
  | @closes top outer r =>
    obtain rfl : r = some root := hroot
    cases outer <;> rfl

theorem run_next {a a' : Assembly} {event : Event} (h : a.step event = .ok a') (position : Nat)
    (rest : Events) : a.run (.next event position rest) = a'.run rest := by
  rw [Assembly.run, h]

/-- A run that ends in a document has made a step at each event. -/
theorem exists_step_of_run {a : Assembly} {event : Event} {position : Nat} {rest : Events}
    {root : Element} (h : a.run (.next event position rest) = .ok root) :
    ∃ a', a.step event = .ok a' ∧ a'.run rest = .ok root := by
  rw [Assembly.run] at h
  cases hstep : a.step event with
  | error fault => rw [hstep] at h; cases h
  | ok a' => rw [hstep] at h; exact ⟨a', rfl, h⟩

theorem eq_of_run {a : Assembly} {events : Events} {root root' : Element}
    (hroot : a.root = some root) (h : a.run events = .ok root') : root' = root := by
  induction events generalizing a with
  | done position =>
    rw [Assembly.run, hroot] at h
    cases hstack : a.stack with
    | nil => rw [hstack] at h; exact (Except.ok.inj h).symm
    | cons top outer => rw [hstack] at h; cases h
  | fail position fault => cases h
  | next event position rest ih =>
    obtain ⟨a', hstep, hrest⟩ := exists_step_of_run h
    exact ih ((step_eq_ok.mp hstep).root hroot) hrest

/-- The names of the open elements, the innermost first. -/
def Assembly.names (a : Assembly) : List String :=
  a.stack.map (·.name)

/-- The names of the open elements after an event. -/
def Event.namesAfter (names : List String) : Event → List String
  | .start tag => nameOf tag :: names
  | .close => names.tail
  | .empty _ | .text _ | .cdata _ | .reference _ | .aside => names

theorem Event.IsContent.namesAfter {event : Event} (h : event.IsContent) (names : List String) :
    event.namesAfter names = names := by
  cases event with
  | text content | cdata content | reference ref => rfl
  | start tag | empty tag | close | aside => exact h.elim

theorem Assembly.names_attach (a : Assembly) (e : Element) : (a.attach e).names = a.names := by
  obtain ⟨stack, root⟩ := a
  cases stack <;> rfl

theorem Steps.names {a a' : Assembly} {event : Event} (h : Steps a event a') :
    a'.names = event.namesAfter a.names := by
  cases h with
  | opens | aside => rfl
  | whole => exact Assembly.names_attach a _
  | closes => exact Assembly.names_attach _ _
  | adds hgives => rw [hgives.isContent.namesAfter]; rfl
  | passes hpassed =>
    rcases hpassed with rfl | hcontent
    · rfl
    · rw [hcontent.namesAfter]

end EntityForge.Xml
