import EntityForge.Proofs.Xml.Assignments
import EntityForge.Proofs.Xml.Reading
import EntityForge.Proofs.Xml.Steps

/-!
# Documents read by recursion

Reading events against a stack of open elements comes to reading them by recursion: an element is
its tag and what stands inside it, and what stands inside it is text and further elements, up to the
closing tag. One lemma says so of the inside of an element, and one of the elements outside all
others, of which the document is the first.

The error, if there is one, can be told without either. It is the first defect that is met when the
events are gone through in order, with the names of the open elements at hand. Where there is no
defect, there is a document unless there is no element, and its tree depends on the events of the
first element alone.
-/

namespace EntityForge.Xml

open Outcome

/-! ### Reading by recursion -/

namespace Events

/-- The number of events. -/
def length : Events → Nat
  | .done _ | .fail _ _ => 0
  | .next _ _ rest => rest.length + 1

/-- What stands inside an element: its children, its text and the events behind its closing tag,
which are fewer than those the element is read from. -/
structure Inside (events : Events) where
  /-- The child elements, in document order. -/
  children : List Element
  /-- The text between them. -/
  text : List Char
  /-- The events behind the closing tag. -/
  rest : Events
  /-- Some events have been read. -/
  shorter : rest.length < events.length

/-- What stands inside an element, if more children and more text stand in front of it. -/
def Inside.behind {events events' : Events} (i : Inside events) (children : List Element)
    (text : List Char) (h : events.length < events'.length) : Inside events' :=
  ⟨children ++ i.children, text ++ i.text, i.rest, i.shorter.trans h⟩

/-- The inside of the element of a name whose start tag has been read. Its children are read with
the same function, and so is what stands behind each of them. -/
def inside (name : String) : (events : Events) → Except DocumentError (Inside events)
  | .done position => .error (.malformed position (.endInside name))
  | .fail position fault => .error (.malformed position fault)
  | .next .close _ rest => .ok ⟨[], [], rest, Nat.lt_succ_self _⟩
  | .next (.text content) _ rest | .next (.cdata content) _ rest => do
    let i ← inside name rest
    return i.behind [] content (Nat.lt_succ_self _)
  | .next .aside _ rest => do
    let i ← inside name rest
    return i.behind [] [] (Nat.lt_succ_self _)
  | .next (.reference ref) position rest => do
    let c ← (resolveReference ref).mapError (.malformed position)
    let i ← inside name rest
    return i.behind [] [c] (Nat.lt_succ_self _)
  | .next (.empty tag) position rest => do
    let made ← (attributes tag).mapError (.malformed position)
    let i ← inside name rest
    return i.behind [⟨nameOf tag, made, [], ""⟩] [] (Nat.lt_succ_self _)
  | .next (.start tag) position rest => do
    let made ← (attributes tag).mapError (.malformed position)
    let child ← inside (nameOf tag) rest
    let i ← inside name child.rest
    let text := Text.trim (String.ofList child.text)
    return i.behind [⟨nameOf tag, made, child.children, text⟩] []
      (child.shorter.trans (Nat.lt_succ_self _))
  termination_by events => events.length
  decreasing_by
    all_goals simp only [length]
    any_goals omega
    have := child.shorter
    omega

/-- The elements that stand outside all others. Text, references, closing tags and asides among them
are passed over. -/
def topLevel : Events → Except DocumentError (List Element)
  | .done _ => .ok []
  | .fail position fault => .error (.malformed position fault)
  | .next .close _ rest | .next (.text _) _ rest | .next (.cdata _) _ rest
  | .next (.reference _) _ rest | .next .aside _ rest => topLevel rest
  | .next (.empty tag) position rest => do
    let made ← (attributes tag).mapError (.malformed position)
    let others ← topLevel rest
    return ⟨nameOf tag, made, [], ""⟩ :: others
  | .next (.start tag) position rest => do
    let made ← (attributes tag).mapError (.malformed position)
    let i ← rest.inside (nameOf tag)
    let others ← topLevel i.rest
    return ⟨nameOf tag, made, i.children, Text.trim (String.ofList i.text)⟩ :: others
  termination_by events => events.length
  decreasing_by
    all_goals simp only [length]
    any_goals omega
    have := i.shorter
    omega

/-- The document that events make: the first of the elements that stand outside all others. -/
def document (events : Events) : Except DocumentError Element := do
  match (← events.topLevel).head? with
  | some root => return root
  | none => throw .noRoot

end Events

/-! ### The stack and the recursion -/

/-- An element is closed with the children and the text that stand inside it. -/
theorem close_inside (name : String) (made : List (String × String)) (children : List Element)
    (text : List Char) :
    (OpenElement.extend ⟨name, made, [], ""⟩ children text).close =
      ⟨name, made, children, Text.trim (String.ofList text)⟩ := by
  simp [OpenElement.close, OpenElement.extend]

/-- The run of an assembly inside an element reads the inside of the element and goes on behind it,
with the element handed over. -/
theorem run_inside (top : OpenElement) (outer : List OpenElement) (root : Option Element)
    (events : Events) :
    Assembly.run ⟨top :: outer, root⟩ events = events.inside top.name >>= fun i =>
      Assembly.run (Assembly.attach ⟨outer, root⟩ (top.extend i.children i.text).close) i.rest := by
  -- the events behind a child are no part of what follows its tag directly, so that the induction is
  -- on the number of events and not on the events
  induction hn : events.length using Nat.strong_induction_on generalizing events top outer root with
  | h n ih =>
    cases events with
    | done position => rw [Events.inside]; rfl
    | fail position fault => rw [Events.inside]; rfl
    | next event position rest =>
      have hshorter : rest.length < n := by simp [← hn, Events.length]
      have hrest := fun top outer root => ih _ hshorter top outer root rest rfl
      rw [Assembly.run]
      cases event with
      | close =>
        have htop : top.extend [] [] = top := by simp [OpenElement.extend]
        rw [Events.inside, ok_bind, htop]
        rfl
      | text content | cdata content =>
        show Assembly.run ⟨top.addText content :: outer, root⟩ rest = _
        rw [hrest, Events.inside, bind_assoc]
        exact bind_congr fun i => by rw [extend_addText]; rfl
      | aside =>
        show Assembly.run ⟨top :: outer, root⟩ rest = _
        rw [hrest, Events.inside, bind_assoc]
        rfl
      | reference ref =>
        rw [Events.inside, Assembly.step]
        cases resolveReference ref with
        | error fault => rfl
        | ok c =>
          show Assembly.run ⟨top.addText [c] :: outer, root⟩ rest = (_ >>= _)
          rw [hrest, Except.mapError, ok_bind, bind_assoc]
          exact bind_congr fun i => by rw [extend_addText]; rfl
      | empty tag =>
        rw [Events.inside, Assembly.step, OpenElement.ofTag]
        cases attributes tag with
        | error fault => rfl
        | ok made =>
          show Assembly.run ⟨top.addChild ⟨nameOf tag, made, [], ""⟩ :: outer, root⟩ rest = _
          rw [hrest, Except.mapError, ok_bind, bind_assoc]
          exact bind_congr fun i => by rw [extend_addChild]; rfl
      | start tag =>
        rw [Events.inside, Assembly.step, OpenElement.ofTag]
        cases attributes tag with
        | error fault => rfl
        | ok made =>
          show Assembly.run ⟨⟨nameOf tag, made, [], ""⟩ :: top :: outer, root⟩ rest = _
          rw [hrest, Except.mapError, ok_bind, bind_assoc]
          refine bind_congr fun child => ?_
          -- the child has been handed over to the element, which goes on behind it
          have hbehind := ih _ (child.shorter.trans hshorter)
          rw [bind_assoc, close_inside, Assembly.attach, hbehind _ _ _ _ rfl]
          exact bind_congr fun i => by rw [extend_addChild]; rfl

/-- The document of an assembly outside all elements, given the elements that are still to come. -/
def firstOf (root : Option Element) (elements : List Element) : Except DocumentError Element :=
  match root.or elements.head? with
  | some e => .ok e
  | none => .error .noRoot

/-- An element that is handed over counts before those behind it. -/
theorem firstOf_cons (root : Option Element) (e : Element) (elements : List Element) :
    firstOf (root.or (some e)) elements = firstOf root (e :: elements) := by
  rw [firstOf, firstOf, Option.or_assoc, Option.some_or, List.head?_cons]

/-- The run of an assembly outside all elements reads the elements at the top level. -/
theorem run_topLevel (root : Option Element) (events : Events) :
    Assembly.run ⟨[], root⟩ events = events.topLevel >>= firstOf root := by
  induction hn : events.length using Nat.strong_induction_on generalizing events root with
  | h n ih =>
    cases events with
    | done position => cases root <;> rw [Events.topLevel] <;> rfl
    | fail position fault => rw [Events.topLevel]; rfl
    | next event position rest =>
      have hshorter : rest.length < n := by simp [← hn, Events.length]
      have hrest := fun root => ih _ hshorter root rest rfl
      rw [Assembly.run]
      cases event with
      | close | text content | cdata content | reference ref | aside =>
        rw [Events.topLevel]
        exact hrest root
      | empty tag =>
        rw [Events.topLevel, Assembly.step, OpenElement.ofTag]
        cases attributes tag with
        | error fault => rfl
        | ok made =>
          show Assembly.run ⟨[], root.or (some ⟨nameOf tag, made, [], ""⟩)⟩ rest = _
          rw [hrest, Except.mapError, ok_bind, bind_assoc]
          exact bind_congr fun others => firstOf_cons root _ others
      | start tag =>
        rw [Events.topLevel, Assembly.step, OpenElement.ofTag]
        cases attributes tag with
        | error fault => rfl
        | ok made =>
          show Assembly.run ⟨⟨nameOf tag, made, [], ""⟩ :: [], root⟩ rest = _
          rw [run_inside, Except.mapError, ok_bind, bind_assoc]
          refine bind_congr fun i => ?_
          have hbehind := ih _ (i.shorter.trans hshorter)
          rw [bind_assoc, close_inside, Assembly.attach, hbehind _ _ rfl]
          exact bind_congr fun others => firstOf_cons root _ others

/-- The document of an assembly that has met nothing is what the recursive reading finds. -/
theorem run_empty (events : Events) : Assembly.run ⟨[], none⟩ events = events.document := by
  rw [run_topLevel, Events.document]
  exact bind_congr fun elements => by cases elements <;> rfl

/-! ### The first defect -/

/-- The fault of a check that fails. -/
def faultOf {α : Type} : Except Fault α → List Fault
  | .ok _ => []
  | .error fault => [fault]

theorem failsFirst_faultOf {α : Type} (x : Except Fault α) : FailsFirst x (faultOf x) := by
  cases x with
  | ok a => exact .ok a
  | error fault => exact .error fault

/-- The faults of an event inside the open elements of some names: those of the attributes of a tag
and, inside an element, those of a reference. -/
def Event.faults (names : List String) : Event → List Fault
  | .start tag | .empty tag => faultOf (attributes tag)
  | .reference ref => if names = [] then [] else faultOf (resolveReference ref)
  | .close | .text _ | .cdata _ | .aside => []

/-- The defects of events inside the open elements of some names, in order, each with its position:
the faults of the events, the fault that the events end in, and an element that is open at their
end. -/
def Events.defects (names : List String) : Events → List (Nat × Fault)
  | .done position =>
    match names with
    | [] => []
    | name :: _ => [(position, .endInside name)]
  | .fail position fault => [(position, fault)]
  | .next event position rest =>
    (event.faults names).map (position, ·) ++ rest.defects (event.namesAfter names)

/-- An event fails with its first fault. -/
theorem failsFirst_step (a : Assembly) (event : Event) :
    FailsFirst (a.step event) (event.faults a.names) := by
  obtain ⟨stack, root⟩ := a
  cases event with
  | start tag => exact ((failsFirst_faultOf (attributes tag)).map _).map _
  | empty tag => exact ((failsFirst_faultOf (attributes tag)).map _).map _
  | close => cases stack <;> exact .ok _
  | text content | cdata content | aside => exact .ok _
  | reference ref =>
    cases stack with
    | nil => exact .ok _
    | cons top outer => exact (failsFirst_faultOf (resolveReference ref)).map _

/-- A run fails with the first defect of its events. -/
theorem run_malformed_iff {a : Assembly} {events : Events} {position : Nat} {fault : Fault} :
    a.run events = .error (.malformed position fault) ↔
      (events.defects a.names).head? = some (position, fault) := by
  induction events generalizing a with
  | done last =>
    obtain ⟨stack, root⟩ := a
    cases stack with
    | nil => cases root <;> simp [Assembly.run, Events.defects, Assembly.names]
    | cons top outer => simp [Assembly.run, Events.defects, Assembly.names]
  | fail last found => simp [Assembly.run, Events.defects]
  | next event last rest ih =>
    have hfirst := failsFirst_step a event
    rw [Assembly.run, Events.defects, List.head?_append, List.head?_map]
    cases hstep : a.step event with
    | error found =>
      rw [(hfirst found).mp hstep]
      simp
    | ok a' =>
      -- an event that does not fail has no faults, and leaves the names that the scan goes on with
      rw [hstep] at hfirst
      rw [hfirst.head?_eq_none, ← (step_eq_ok.mp hstep).names]
      exact ih

/-! ### Documents without an element -/

/-- The events in order. -/
def Events.toList : Events → List Event
  | .done _ | .fail _ _ => []
  | .next event _ rest => event :: rest.toList

/-- An assembly that has met an element. -/
def Assembly.Begun (a : Assembly) : Prop :=
  a.stack ≠ [] ∨ a.root ≠ none

theorem Assembly.begun_attach (a : Assembly) (e : Element) : (a.attach e).Begun := by
  obtain ⟨stack, root⟩ := a
  cases stack with
  | nil => exact .inr (by cases root <;> simp [Assembly.attach])
  | cons top outer => exact .inl (by simp [Assembly.attach])

theorem Steps.begun {a a' : Assembly} {event : Event} (h : Steps a event a')
    (hbegun : a.Begun ∨ event.IsTag) : a'.Begun := by
  cases h with
  | opens => exact .inl (List.cons_ne_nil _ _)
  | whole => exact Assembly.begun_attach a _
  | closes => exact Assembly.begun_attach _ _
  | adds => exact .inl (List.cons_ne_nil _ _)
  | aside => exact hbegun.resolve_right id
  | passes hpassed =>
    refine hbegun.resolve_right fun htag => ?_
    rcases hpassed with rfl | hcontent
    · exact htag
    · exact hcontent.not_isTag htag

theorem Assembly.Begun.run_ne {a : Assembly} (h : a.Begun) (events : Events) :
    a.run events ≠ .error .noRoot := by
  induction events generalizing a with
  | done position =>
    obtain ⟨stack, root⟩ := a
    cases stack with
    | cons top outer => simp [Assembly.run]
    | nil =>
      cases root with
      | none => simp [Assembly.Begun] at h
      | some e => simp [Assembly.run]
  | fail position fault => simp [Assembly.run]
  | next event position rest ih =>
    rw [Assembly.run]
    cases hstep : a.step event with
    | error fault => simp
    | ok a' => exact ih ((step_eq_ok.mp hstep).begun (.inl h))

theorem run_ne_of_tag {event : Event} (h : event.IsTag) (a : Assembly) (position : Nat)
    (rest : Events) : a.run (.next event position rest) ≠ .error .noRoot := by
  rw [Assembly.run]
  cases hstep : a.step event with
  | error fault => simp
  | ok a' => exact ((step_eq_ok.mp hstep).begun (.inr h)).run_ne rest

/-- There is no document just where there is neither a defect nor an element. -/
theorem run_noRoot_iff {events : Events} :
    Assembly.run ⟨[], none⟩ events = .error .noRoot ↔
      events.defects [] = [] ∧ ∀ event ∈ events.toList, ¬ event.IsTag := by
  induction events with
  | done position => simp [Assembly.run, Events.defects, Events.toList]
  | fail position fault => simp [Assembly.run, Events.defects]
  | next event position rest ih =>
    rw [Events.toList, List.forall_mem_cons, Events.defects]
    cases event with
    | start tag | empty tag =>
      exact iff_of_false (run_ne_of_tag (by trivial) _ position rest) fun h => h.2.1 trivial
    | close | text content | cdata content | reference ref | aside =>
      simp only [Event.faults, Event.namesAfter, Event.IsTag, List.tail_nil, if_true, List.map_nil,
        List.nil_append, not_false_eq_true, true_and]
      exact ih

/-! ### The first element alone -/

/-- The events of the first top-level element alone, from its start tag on, a number of elements
being open before them. What stands in front of the element or behind it is left out. -/
def Events.firstElement (depth : Nat) : Events → Events
  | .done position => .done position
  | .fail position fault => .fail position fault
  | .next (.start tag) position rest =>
    .next (.start tag) position (rest.firstElement (depth + 1))
  | .next (.empty tag) position rest =>
    .next (.empty tag) position (if depth = 0 then .done position else rest.firstElement depth)
  | .next .close position rest =>
    match depth with
    | 0 => rest.firstElement 0
    | 1 => .next .close position (.done position)
    | d + 2 => .next .close position (rest.firstElement (d + 1))
  | .next (.text content) position rest =>
    if depth = 0 then rest.firstElement 0
    else .next (.text content) position (rest.firstElement depth)
  | .next (.cdata content) position rest =>
    if depth = 0 then rest.firstElement 0
    else .next (.cdata content) position (rest.firstElement depth)
  | .next (.reference ref) position rest =>
    if depth = 0 then rest.firstElement 0
    else .next (.reference ref) position (rest.firstElement depth)
  | .next .aside position rest =>
    if depth = 0 then rest.firstElement 0
    else .next .aside position (rest.firstElement depth)

theorem Event.IsContent.firstElement {event : Event} (h : event.IsContent) (depth position : Nat)
    (rest : Events) :
    Events.firstElement depth (.next event position rest) = if depth = 0 then rest.firstElement 0
      else .next event position (rest.firstElement depth) := by
  cases event with
  | text content | cdata content | reference ref => rfl
  | start tag | empty tag | close | aside => exact h.elim

/-- While there is no root, an event stands in front of the first element, completes it as the root,
or is a part of it that others follow. -/
theorem Steps.firstElement {stack : List OpenElement} {event : Event} {a' : Assembly}
    (h : Steps ⟨stack, none⟩ event a') (position : Nat) (rest : Events) :
    (a' = ⟨stack, none⟩ ∧ Events.firstElement stack.length (.next event position rest) =
        rest.firstElement stack.length) ∨
      (∃ root, a' = ⟨[], some root⟩ ∧ Events.firstElement stack.length (.next event position rest) =
        .next event position (.done position)) ∨
      ∃ stack', a' = ⟨stack', none⟩ ∧ Events.firstElement stack.length (.next event position rest) =
        .next event position (rest.firstElement stack'.length) := by
  cases h with
  | opens => exact .inr (.inr ⟨_, rfl, rfl⟩)
  | whole =>
    cases stack with
    | nil => exact .inr (.inl ⟨_, rfl, rfl⟩)
    | cons top outer => exact .inr (.inr ⟨_, rfl, rfl⟩)
  | @closes top outer =>
    cases outer with
    | nil => exact .inr (.inl ⟨_, rfl, rfl⟩)
    | cons next outer => exact .inr (.inr ⟨_, rfl, rfl⟩)
  | adds hgives =>
    refine .inr (.inr ⟨_, rfl, ?_⟩)
    rw [hgives.isContent.firstElement, List.length_cons, if_neg (Nat.succ_ne_zero _)]
    rfl
  | aside =>
    cases stack with
    | nil => exact .inl ⟨rfl, rfl⟩
    | cons top outer => exact .inr (.inr ⟨_, rfl, rfl⟩)
  | passes hpassed =>
    refine .inl ⟨rfl, ?_⟩
    rcases hpassed with rfl | hcontent
    · rfl
    · exact hcontent.firstElement ..

/-- A document is made of the events of its first element. -/
theorem run_firstElement {stack : List OpenElement} {events : Events} {root : Element}
    (h : Assembly.run ⟨stack, none⟩ events = .ok root) :
    Assembly.run ⟨stack, none⟩ (events.firstElement stack.length) = .ok root := by
  induction events generalizing stack with
  | done position => exact h
  | fail position fault => cases h
  | next event position rest ih =>
    obtain ⟨a', hstep, hrest⟩ := exists_step_of_run h
    rcases (step_eq_ok.mp hstep).firstElement position rest with
      ⟨rfl, hfirst⟩ | ⟨root', rfl, hfirst⟩ | ⟨stack', rfl, hfirst⟩
    · rw [hfirst]
      exact ih hrest
    · -- the element is the root, whatever follows it
      rw [hfirst, run_next hstep, eq_of_run rfl hrest]
      rfl
    · rw [hfirst, run_next hstep]
      exact ih hrest

/-! ### Documents -/

/-- The stack finds the document that the recursive reading finds, with the attributes of a tag
being what the tag assigns to keys that declare no namespace. There is no document just where there
is neither a defect nor an element, and the error is the first defect if there is any. The tree is
that of the events of the first element alone. -/
theorem run_eq_document (events : Events) :
    Assembly.run ⟨[], none⟩ events = events.document ∧
      (∀ tag made, attributes tag = .ok made ↔
        ∃ assigned, Assigns assigned (tag.drop (tagName tag).length) ∧
          (assigned.map (·.1)).Nodup ∧ List.Forall₂ Makes (assigning assigned) made) ∧
      (Assembly.run ⟨[], none⟩ events = .error .noRoot ↔
        events.defects [] = [] ∧ ∀ event ∈ events.toList, ¬ event.IsTag) ∧
      (∀ position fault, Assembly.run ⟨[], none⟩ events = .error (.malformed position fault) ↔
        (events.defects []).head? = some (position, fault)) ∧
      ∀ root, Assembly.run ⟨[], none⟩ events = .ok root →
        Assembly.run ⟨[], none⟩ (events.firstElement 0) = .ok root :=
  ⟨run_empty events, fun _ _ => attributes_eq_ok, run_noRoot_iff, fun _ _ => run_malformed_iff,
    fun _ => run_firstElement⟩

/-- An element with text in several pieces, an aside, a child and a namespace, between text, an
aside, a reference that does not resolve and another element. -/
def surroundedEvents : Events :=
  .next (.text ['x']) 1 <| .next (.start "o:a xmlns:o='u' b='&lt;'".toList) 25 <|
  .next (.text [' ', 't']) 27 <| .next (.empty ['c']) 31 <| .next (.reference "amp".toList) 36 <|
  .next .aside 43 <| .next (.cdata ['<']) 56 <| .next .close 62 <| .next .aside 69 <|
  .next (.reference "no".toList) 73 <| .next (.empty ['d']) 77 <| .done 77

/-- The element is read, and what is around it does not matter. -/
theorem run_surroundedEvents :
    Assembly.run ⟨[], none⟩ surroundedEvents =
        .ok ⟨"a", [("b", "<")], [⟨"c", [], [], ""⟩], "t&<"⟩ ∧
      Assembly.run ⟨[], none⟩ (surroundedEvents.firstElement 0) =
        .ok ⟨"a", [("b", "<")], [⟨"c", [], [], ""⟩], "t&<"⟩ := by
  obtain ⟨-, -, -, -, hfirst⟩ := run_eq_document surroundedEvents
  have hrun : Assembly.run ⟨[], none⟩ surroundedEvents =
      .ok ⟨"a", [("b", "<")], [⟨"c", [], [], ""⟩], "t&<"⟩ := by decide +kernel
  exact ⟨hrun, hfirst _ hrun⟩

end EntityForge.Xml
