import EntityForge.Proofs.Xml.Nesting
import EntityForge.Proofs.Xml.Places

/-!
# Document order

The elements of a document are in document order when their start tags are: the root comes first and
all elements below it follow as they begin, whether they end before or behind the next start tag.
The run of an assembly keeps this. The elements begun so far are those of the open elements, each
followed by what has been completed inside it, and an event adds an element to them just if it is a
tag that begins one.

So what is found below an element is the element of the first start tag between its own two tags that
has the name, however deep it stands.
-/

namespace EntityForge.Xml

/-! ### Start tags -/

/-- What a start tag says of its element: the name, and the attributes if they are not at fault. -/
abbrev Heading := String × Except Fault (List (String × String))

/-- The heading of the element that an event begins. -/
def Event.heading? : Event → Option Heading
  | .start tag | .empty tag => some (nameOf tag, attributes tag)
  | .close | .text _ | .cdata _ | .reference _ | .aside => none

theorem Event.IsContent.heading? {event : Event} (h : event.IsContent) : event.heading? = none := by
  cases event with
  | text content | cdata content | reference ref => rfl
  | start tag | empty tag | close | aside => exact h.elim

/-- The headings of the start tags among events, in order. -/
def Events.headings (events : Events) : List Heading :=
  events.toList.filterMap Event.heading?

theorem Events.headings_next (event : Event) (position : Nat) (rest : Events) :
    (Events.next event position rest).headings = event.heading?.toList ++ rest.headings := by
  rw [headings, toList, List.filterMap_cons]
  cases event.heading? <;> rfl

/-- The headings of an element and of all elements below it, in document order. -/
def Element.headings (e : Element) : List Heading :=
  (e :: e.descendants).map fun d => (d.name, .ok d.attributes)

/-- The headings of an open element and of all that has been completed inside it. -/
def OpenElement.headings (e : OpenElement) : List Heading :=
  (Element.mk e.name e.attributes e.latest.reverse e.text).headings

/-- The headings of all elements that have begun while some are open. -/
def headingsOf : List OpenElement → List Heading
  | [] => []
  | top :: outer => headingsOf outer ++ top.headings

/-- The text of an element is none of its headings. -/
theorem Element.headings_text (name : String) (attributes : List (String × String))
    (children : List Element) (text text' : String) :
    (Element.mk name attributes children text).headings =
      (Element.mk name attributes children text').headings := by
  rw [headings, headings, List.map_cons, List.map_cons, descendants_eq, descendants_eq]

theorem OpenElement.headings_close (e : OpenElement) : e.close.headings = e.headings :=
  Element.headings_text ..

theorem OpenElement.headings_addText (e : OpenElement) (piece : List Char) :
    (e.addText piece).headings = e.headings :=
  Element.headings_text ..

/-- A child that is complete has its headings behind those of its element. -/
theorem OpenElement.headings_addChild (e : OpenElement) (c : Element) :
    (e.addChild c).headings = e.headings ++ c.headings := by
  rw [OpenElement.headings, OpenElement.headings, Element.headings, Element.headings,
    Element.headings, addChild, List.reverse_cons, Element.descendants_eq,
    Element.preorder_append, Element.preorder_single, ← List.cons_append, List.map_append,
    Element.descendants_eq]
  rfl

theorem headingsOf_addChild (top : OpenElement) (outer : List OpenElement) (c : Element) :
    headingsOf (top.addChild c :: outer) = headingsOf (top :: outer) ++ c.headings := by
  rw [headingsOf, headingsOf, OpenElement.headings_addChild, List.append_assoc]

/-- The headings of all elements that an assembly has begun. -/
def Assembly.headings (a : Assembly) : List Heading :=
  a.root.elim [] Element.headings ++ headingsOf a.stack

theorem Assembly.headings_attach (stack : List OpenElement) (e : Element) :
    (Assembly.attach ⟨stack, none⟩ e).headings = headingsOf stack ++ e.headings := by
  cases stack with
  | nil => exact List.append_nil _
  | cons top outer => exact headingsOf_addChild top outer e

/-- While there is no root, an event begins the element of its heading, if it has one. -/
theorem Steps.headings {stack : List OpenElement} {event : Event} {a' : Assembly}
    (h : Steps ⟨stack, none⟩ event a') :
    a'.headings = headingsOf stack ++ event.heading?.toList := by
  cases h with
  | opens hmade =>
    rw [Event.heading?, hmade]
    rfl
  | whole hmade =>
    rw [Event.heading?, hmade]
    exact Assembly.headings_attach ..
  | @closes top outer =>
    rw [Assembly.headings_attach, OpenElement.headings_close]
    exact (List.append_nil _).symm
  | @adds top outer _ _ piece hgives =>
    rw [hgives.isContent.heading?, Option.toList_none, List.append_nil, headingsOf,
      ← OpenElement.headings_addText top piece]
    rfl
  | aside => exact (List.append_nil _).symm
  | passes hpassed =>
    have hnone : event.heading? = none := by
      rcases hpassed with rfl | hcontent
      · rfl
      · exact hcontent.heading?
    rw [hnone]
    rfl

/-- A document has the elements that have begun, and those that the start tags of its first element
begin. -/
theorem headings_of_run {stack : List OpenElement} {events : Events} {root : Element}
    (h : Assembly.run ⟨stack, none⟩ events = .ok root) :
    root.headings = headingsOf stack ++ (events.firstElement stack.length).headings := by
  induction events generalizing stack with
  | done position => cases stack <;> cases h
  | fail position fault => cases h
  | next event position rest ih =>
    obtain ⟨a', hstep, hrest⟩ := exists_step_of_run h
    have hheadings := (step_eq_ok.mp hstep).headings
    rcases (step_eq_ok.mp hstep).firstElement position rest with
      ⟨rfl, hfirst⟩ | ⟨root', rfl, hfirst⟩ | ⟨stack', rfl, hfirst⟩
    · rw [hfirst]
      exact ih hrest
    · -- nothing that begins behind the root belongs to it
      obtain rfl := eq_of_run rfl hrest
      rw [hfirst, Events.headings_next, ← List.append_assoc, ← hheadings]
      simp [Assembly.headings, headingsOf, Events.headings, Events.toList]
    · rw [hfirst, Events.headings_next, ← List.append_assoc, ← hheadings]
      exact ih hrest

/-! ### The search -/

namespace Element

/-- What is found below an element is found at the first place below it that has the name. -/
theorem descendant?_eq_some {e d : Element} {name : String} :
    e.descendant? name = some d ↔ ∃ p, FirstBelow e name p d := by
  rw [descendant?_eq_find?, ← map_placed, List.find?_map, Option.map_eq_some_iff]
  constructor
  · rintro ⟨⟨p, d'⟩, hfind, rfl⟩
    exact ⟨p, (listing_placed e).find?_eq_some.mp hfind⟩
  · rintro ⟨p, hfirst⟩
    exact ⟨(p, d), (listing_placed e).find?_eq_some.mpr hfirst, rfl⟩

/-- What is found below an element is not the element itself, nor like it in everything. -/
theorem descendant?_ne_self (e : Element) (name : String) : e.descendant? name ≠ some e := by
  intro h
  rw [descendant?_eq_find?] at h
  exact absurd (length_descendants_lt (List.mem_of_find?_eq_some h)) (Nat.lt_irrefl _)

/-- The search for a name finds the first element of the name among all elements strictly below, in
the order of their places and of their start tags, and nothing just where there is none. -/
theorem descendant?_documentOrder (e : Element) (name : String) :
    (∃ entries, Listing e entries ∧ entries.map (·.2) = e.descendants) ∧
      (∀ events, Assembly.run ⟨[], none⟩ events = .ok e →
        (events.firstElement 0).headings =
          (e :: e.descendants).map fun d => (d.name, .ok d.attributes)) ∧
      e.descendant? name = e.descendants.find? (·.name == name) ∧
      (e.descendant? name = none ↔ ∀ d ∈ e.descendants, d.name ≠ name) ∧
      (∀ d, e.descendant? name = some d ↔ ∃ p, FirstBelow e name p d) ∧
      (∀ before c after, e.children = before ++ c :: after →
        (∀ b ∈ before, b.name ≠ name ∧ b.descendant? name = none) → c.name ≠ name →
        ∀ d, c.descendant? name = some d → e.descendant? name = some d) ∧
      e.descendant? name ≠ some e := by
  refine ⟨⟨e.placed, listing_placed e, map_placed e⟩, fun events h => ?_,
    descendant?_eq_find? e name, descendant?_eq_none, fun d => descendant?_eq_some,
    fun before c after hchildren hbefore hc d hd => ?_, descendant?_ne_self e name⟩
  · exact (headings_of_run h).symm
  · rw [descendant?_eq_firstAmong, hchildren, firstAmong_append hbefore,
      firstAmong_cons_of_ne hc, hd, Option.some_or]

/-- An element with a child of its own name, behind a child that has one further below it. -/
def nestedElement : Element :=
  ⟨"c", [("i", "1")], [⟨"b", [], [⟨"c", [("i", "2")], [], ""⟩], ""⟩, ⟨"c", [("i", "3")], [], ""⟩], ""⟩

/-- The start tags are in this order, and the one that is found is the third of them. -/
theorem descendant?_nestedElement :
    ∃ events, Assembly.run ⟨[], none⟩ events = .ok nestedElement ∧
      (events.firstElement 0).headings = [("c", .ok [("i", "1")]), ("b", .ok []),
        ("c", .ok [("i", "2")]), ("c", .ok [("i", "3")])] ∧
      nestedElement.descendant? "c" = some ⟨"c", [("i", "2")], [], ""⟩ ∧
      nestedElement.descendant? "c" ≠ some nestedElement := by
  obtain ⟨-, hheadings, -, -, -, hdeeper, hself⟩ := descendant?_documentOrder nestedElement "c"
  have hrun : Assembly.run ⟨[], none⟩
      (Events.ofText "<c i='1'><b><c i='2'/></b><c i='3'/></c>") = .ok nestedElement := by
    decide +kernel
  have hfound := hdeeper [] ⟨"b", [], [⟨"c", [("i", "2")], [], ""⟩], ""⟩
    [⟨"c", [("i", "3")], [], ""⟩] rfl (List.forall_mem_nil _) (by decide) _ rfl
  exact ⟨_, hrun, hheadings _ hrun, hfound, hself⟩

end Element

end EntityForge.Xml
