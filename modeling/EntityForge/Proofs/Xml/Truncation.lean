import EntityForge.Model.Loading
import EntityForge.Proofs.Outcome
import EntityForge.Proofs.Xml.Steps
import EntityForge.Proofs.Xml.Tokens

/-!
# Truncated documents

A text that ends before its first top-level element does is no document, wherever it ends: between
two pieces of markup the element that is still open is found, or there is no element yet; inside a
piece of markup or a reference the text is at fault. At the final character of the element the
document is complete.

The end of the element is read off the events, by counting the elements that are open. What an
assembly makes of the events is not looked at for that. Both are followed through a text together,
one complete piece at a time, and until the element ends the number of names that the reader keeps
is the number of elements on the stack of the assembly.
-/

namespace EntityForge.Xml

open Outcome
open Text (takeWhile_append_cons dropWhile_append_cons)

/-! ### The end of the first top-level element -/

/-- The position behind the first top-level element of what some events come to, a number of
elements being open before them. -/
def Events.rootEnd? (depth : Nat) : Events → Option Nat
  | .done _ | .fail _ _ => none
  | .next (.start _) _ rest => rest.rootEnd? (depth + 1)
  | .next (.empty _) position rest => if depth = 0 then some position else rest.rootEnd? depth
  | .next .close position rest => if depth = 1 then some position else rest.rootEnd? (depth - 1)
  | .next (.text _) _ rest | .next (.cdata _) _ rest | .next (.reference _) _ rest
  | .next .aside _ rest => rest.rootEnd? depth

theorem byteLength_append (xs ys : List Char) :
    byteLength (xs ++ ys) = byteLength xs + byteLength ys := by
  induction xs with
  | nil => simp [byteLength]
  | cons c cs ih =>
    simp only [byteLength, List.cons_append, List.foldr_cons] at ih ⊢
    rw [ih, Nat.add_assoc]

theorem rootEnd?_scan_char (depth : Nat) (names : List (List Char)) (position : Nat) {c : Char}
    (cs : List Char) (hopen : c ≠ '<') (hamp : c ≠ '&') :
    (Events.scan names position (c :: cs)).rootEnd? depth =
      (Events.scan names (position + c.utf8Size) cs).rootEnd? depth := by
  rw [scan_text names position cs hopen hamp, Events.rootEnd?]
  cases cs with
  | nil => rfl
  | cons d ds =>
    by_cases hd : inText d = true
    · have hd' : d ≠ '<' ∧ d ≠ '&' := by simpa [inText] using hd
      rw [scan_text names _ ds hd'.1 hd'.2, Events.rootEnd?,
        List.takeWhile_cons_of_pos hd, List.dropWhile_cons_of_pos hd]
      simp only [byteLength, List.foldr_cons, Nat.add_assoc]
    · rw [List.takeWhile_cons_of_neg hd, List.dropWhile_cons_of_neg hd]
      rfl

/-! ### Complete pieces -/

/-- A piece of a text takes one assembly to another, and the names of the open elements to others,
whatever follows it, and the first top-level element does not end in it. -/
structure Advances (names : List (List Char)) (a : Assembly) (piece : List Char)
    (names' : List (List Char)) (a' : Assembly) : Prop where
  /-- What the assembly makes of the text is what the other one makes of the rest. -/
  run : ∀ position rest, a.run (Events.scan names position (piece ++ rest)) =
    a'.run (Events.scan names' (position + byteLength piece) rest)
  /-- The element ends in the rest. -/
  rootEnd : ∀ position rest,
    (Events.scan names position (piece ++ rest)).rootEnd? names.length =
      (Events.scan names' (position + byteLength piece) rest).rootEnd? names'.length

/-- No top-level element is complete, and the names are those of the open elements. -/
structure Pending (names : List (List Char)) (a : Assembly) : Prop where
  /-- There is no root yet. -/
  root : a.root = none
  /-- There is a name for each open element. -/
  length : a.stack.length = names.length

/-- A text is no document. -/
def Rejects (names : List (List Char)) (a : Assembly) (cs : List Char) : Prop :=
  ∀ position, ∃ e, a.run (Events.scan names position cs) = .error e

theorem rejects_nil {names : List (List Char)} {a : Assembly} (h : a.root = none) :
    Rejects names a [] := by
  intro position
  rw [Events.scan, Assembly.run, h]
  cases a.stack with
  | nil => exact ⟨_, rfl⟩
  | cons top outer => exact ⟨_, rfl⟩

theorem rejects_of_fail {names : List (List Char)} {a : Assembly} {cs : List Char}
    (h : ∀ position, ∃ stop fault, Events.scan names position cs = .fail stop fault) :
    Rejects names a cs := by
  intro position
  obtain ⟨stop, fault, hscan⟩ := h position
  exact ⟨.malformed stop fault, by rw [hscan, Assembly.run]⟩

/-- What is rejected behind a piece is rejected with the piece in front. -/
theorem Advances.rejects {names names' : List (List Char)} {a a' : Assembly}
    {piece cs : List Char} (h : Advances names a piece names' a') (hcs : Rejects names' a' cs) :
    Rejects names a (piece ++ cs) := by
  intro position
  rw [h.run]
  exact hcs _

/-- A complete piece of a text, which cannot be cut short. -/
structure Token (names : List (List Char)) (a : Assembly) (piece : List Char)
    (names' : List (List Char)) (a' : Assembly) : Prop extends
    Advances names a piece names' a' where
  /-- The piece has a character. -/
  ne_nil : piece ≠ []
  /-- The first top-level element is still to be completed. -/
  pending : Pending names' a'
  /-- A text that ends inside the piece is rejected. -/
  short : ∀ p, p <+: piece → p ≠ piece → Rejects names a p

/-- The first top-level element of a text, and with it the document, is complete at the closing
bracket behind some text, and not before. -/
structure Closes (names : List (List Char)) (a : Assembly) (root : Element)
    (cs before : List Char) : Prop where
  /-- The bracket stands in the text. -/
  split : ∃ rest, cs = before ++ '>' :: rest
  /-- The element ends with the bracket. -/
  rootEnd : ∀ position, (Events.scan names position cs).rootEnd? names.length =
    some (position + byteLength (before ++ ['>']))
  /-- What ends before the bracket is rejected. -/
  short : ∀ p, p <+: before → Rejects names a p
  /-- What ends with the bracket is a document. -/
  complete : ∀ position, a.run (Events.scan names position (before ++ ['>'])) = .ok root

/-- A prefix of two texts, one behind the other, ends in the first one or goes on in the second. -/
theorem prefix_append_cases {p xs ys : List Char} (h : p <+: xs ++ ys) :
    p <+: xs ∧ p ≠ xs ∨ ∃ p', p = xs ++ p' ∧ p' <+: ys := by
  rcases List.prefix_or_prefix_of_prefix h (List.prefix_append xs ys) with hp | ⟨p', rfl⟩
  · by_cases heq : p = xs
    · exact .inr ⟨[], by rw [heq, List.append_nil], List.nil_prefix⟩
    · exact .inl ⟨hp, heq⟩
  · exact .inr ⟨p', rfl, (List.prefix_append_right_inj xs).mp h⟩

theorem Token.closes {names names' : List (List Char)} {a a' : Assembly} {root : Element}
    {piece cs before : List Char} (h : Token names a piece names' a')
    (hcs : Closes names' a' root cs before) :
    Closes names a root (piece ++ cs) (piece ++ before) := by
  obtain ⟨rest, hrest⟩ := hcs.split
  refine ⟨⟨rest, by rw [hrest, List.append_assoc]⟩, fun position => ?_, fun p hp => ?_,
    fun position => ?_⟩
  · rw [h.rootEnd, hcs.rootEnd, List.append_assoc, byteLength_append piece, Nat.add_assoc]
  · rcases prefix_append_cases hp with ⟨hp, hne⟩ | ⟨p', rfl, hp'⟩
    · exact h.short p hp hne
    · exact h.toAdvances.rejects (hcs.short p' hp')
  · rw [List.append_assoc, h.run, hcs.complete]

/-! ### Characters and references -/

theorem Pending.addText {names : List (List Char)} {a : Assembly} (h : Pending names a)
    (piece : List Char) : Pending names (a.addText piece) := by
  obtain ⟨stack, root⟩ := a
  obtain ⟨hroot, hlength⟩ := h
  cases stack with
  | nil => exact ⟨hroot, hlength⟩
  | cons top outer => exact ⟨hroot, hlength⟩

theorem Pending.reference {names : List (List Char)} {a a' : Assembly} (h : Pending names a)
    {name : List Char} (hstep : a.step (.reference name) = .ok a') : Pending names a' := by
  obtain ⟨stack, root⟩ := a
  cases stack with
  | nil =>
    cases hstep
    exact h
  | cons top outer =>
    obtain ⟨c, -, rfl⟩ := map_eq_ok.mp hstep
    exact h.addText [c]

theorem token_char {names : List (List Char)} {a : Assembly} (h : Pending names a) {c : Char}
    (hopen : c ≠ '<') (hamp : c ≠ '&') : Token names a [c] names (a.addText [c]) where
  run position rest := run_scan_char a names position rest hopen hamp
  rootEnd position rest := rootEnd?_scan_char names.length names position rest hopen hamp
  ne_nil := by simp
  pending := h.addText [c]
  short p hp hne := by
    have hnil : p <+: [] :=
      (List.prefix_concat_iff.mp (show p <+: [] ++ [c] from hp)).resolve_left hne
    rw [List.prefix_nil.mp hnil]
    exact rejects_nil h.root

/-- A reference is read up to its semicolon. -/
theorem scan_reference (names : List (List Char)) (position : Nat) {name : List Char}
    (rest : List Char) (h : ∀ c ∈ name, inReference c = true) :
    Events.scan names position ('&' :: (name ++ ';' :: rest)) =
      .next (.reference name) (position + 1 + byteLength name + 1)
        (Events.scan names (position + 1 + byteLength name + 1) rest) := by
  have hdrop := dropWhile_append_cons (y := ';') rest h (by decide)
  rw [Events.scan]
  split
  · next after hafter =>
    rw [hdrop] at hafter
    cases hafter
    rw [takeWhile_append_cons rest h (by decide)]
  · next hother => exact absurd hdrop (hother rest)

/-- A text that ends inside a reference is at fault. -/
theorem scan_reference_short (names : List (List Char)) (position : Nat) {name : List Char}
    (h : ∀ c ∈ name, inReference c = true) :
    ∃ stop fault, Events.scan names position ('&' :: name) = .fail stop fault := by
  rw [Events.scan]
  split
  · next rest hrest =>
    rw [List.dropWhile_eq_nil_iff.mpr h] at hrest
    cases hrest
  · exact ⟨_, _, rfl⟩

theorem token_reference {names : List (List Char)} {a a' : Assembly} (h : Pending names a)
    {name : List Char} (hname : ∀ c ∈ name, inReference c = true)
    (hstep : a.step (.reference name) = .ok a') :
    Token names a ('&' :: (name ++ [';'])) names a' := by
  have hshape : ∀ rest, '&' :: (name ++ [';']) ++ rest = '&' :: (name ++ ';' :: rest) := by simp
  have hstop : ∀ position, position + byteLength ('&' :: (name ++ [';'])) =
      position + 1 + byteLength name + 1 := fun position => by
    rw [← List.cons_append, byteLength_append]
    simp only [byteLength, List.foldr_cons, List.foldr_nil]
    have hamp : '&'.utf8Size = 1 := rfl
    have hsemicolon : ';'.utf8Size = 1 := rfl
    omega
  refine ⟨⟨fun position rest => ?_, fun position rest => ?_⟩, by simp, h.reference hstep,
    fun p hp hne => ?_⟩
  · rw [hshape, hstop, scan_reference names position rest hname, Assembly.run, hstep]
  · rw [hshape, hstop, scan_reference names position rest hname, Events.rootEnd?]
  · cases p with
    | nil => exact rejects_nil h.root
    | cons c p =>
      obtain ⟨rfl, htail⟩ := List.cons_prefix_cons.mp hp
      have hpart := (List.prefix_concat_iff.mp htail).resolve_left fun heq => hne (by rw [heq])
      exact rejects_of_fail fun position =>
        scan_reference_short names position fun c hc => hname c (hpart.subset hc)

/-! ### Markup -/

/-- The text of markup of a content. -/
def bracketed (content : List Char) : List Char := '<' :: (content ++ ['>'])

theorem bracketed_append (content rest : List Char) :
    bracketed content ++ rest = '<' :: (content ++ '>' :: rest) := by
  simp [bracketed]

theorem byteLength_bracketed (position : Nat) (content : List Char) :
    position + byteLength (bracketed content) = position + 1 + byteLength content + 1 := by
  rw [bracketed, ← List.cons_append, byteLength_append]
  have hopen : '<'.utf8Size = 1 := rfl
  have hclose : '>'.utf8Size = 1 := rfl
  simp only [byteLength, List.foldr_cons, List.foldr_nil]
  omega

variable {rule : MarkupRule} {content : List Char} {m : Markup}

/-- The events from markup on, which ends at a position in front of some text. -/
def Markup.events (m : Markup) (names : List (List Char)) (stop : Nat) (rest : List Char) :
    Events :=
  match m with
  | .aside => .next .aside stop (Events.scan names stop rest)
  | .cdata text => .next (.cdata text) stop (Events.scan names stop rest)
  | .start tag => .next (.start tag) stop (Events.scan (tagName tag :: names) stop rest)
  | .empty tag => .next (.empty tag) stop (Events.scan names stop rest)
  | .close name =>
    match names with
    | [] => .fail stop (.unopenedClose (String.ofList name))
    | expected :: outer =>
      if name = expected then .next .close stop (Events.scan outer stop rest)
      else .fail stop (.mismatchedClose (String.ofList expected) (String.ofList name))

/-- Complete markup is read whatever follows it. -/
theorem MarkupRule.Completes.scan (h : rule.Completes content) (hjudge : rule.judge content = .ok m)
    (names : List (List Char)) (position : Nat) (rest : List Char) :
    Events.scan names position (bracketed content ++ rest) =
      m.events names (position + byteLength (bracketed content)) rest := by
  rw [bracketed_append, scan_markup names position (h.chosen rest) (h.cut rest), hjudge,
    byteLength_bracketed]
  cases m <;> rfl

/-- A text that ends inside markup is rejected. -/
theorem MarkupRule.Completes.rejects (h : rule.Completes content) {names : List (List Char)}
    {a : Assembly} (hroot : a.root = none) {p : List Char} (hp : p <+: '<' :: content) :
    Rejects names a p := by
  cases p with
  | nil => exact rejects_nil hroot
  | cons c p =>
    obtain ⟨rfl, htail⟩ := List.cons_prefix_cons.mp hp
    exact rejects_of_fail fun position => h.short p htail names position

/-- Part of the text of markup ends before the closing bracket. -/
theorem prefix_of_prefix_bracketed {p : List Char} (hp : p <+: bracketed content)
    (hne : p ≠ bracketed content) : p <+: '<' :: content := by
  have hsplit : bracketed content = ('<' :: content) ++ ['>'] := rfl
  rw [hsplit] at hp hne
  exact (List.prefix_concat_iff.mp hp).resolve_left hne

/-- What the markup of an event does to an assembly and to the names of the open elements, unless
the first top-level element ends with it. -/
inductive Effect : Markup → List (List Char) → Assembly → List (List Char) → Assembly → Prop
  /-- Comments and the like do nothing. -/
  | aside (names : List (List Char)) (a : Assembly) : Effect .aside names a names a
  /-- A CDATA section adds its text. -/
  | cdata (text : List Char) (names : List (List Char)) (a : Assembly) :
    Effect (.cdata text) names a names (a.addText text)
  /-- A start tag opens an element. -/
  | start {tag : List Char} {e : OpenElement} (h : OpenElement.ofTag tag = .ok e)
    (names : List (List Char)) (a : Assembly) :
    Effect (.start tag) names a (tagName tag :: names) { a with stack := e :: a.stack }
  /-- An empty-element tag inside an element adds a child. -/
  | empty {tag : List Char} {e : OpenElement} (h : OpenElement.ofTag tag = .ok e)
    (name : List Char) (names : List (List Char)) (a : Assembly) :
    Effect (.empty tag) (name :: names) a (name :: names) (a.attach e.close)
  /-- A closing tag of an element inside another one closes it. -/
  | close (inner name : List Char) (names : List (List Char)) (top : OpenElement)
    (outer : List OpenElement) (root : Option Element) :
    Effect (.close inner) (inner :: name :: names) ⟨top :: outer, root⟩ (name :: names)
      (Assembly.attach ⟨outer, root⟩ top.close)

theorem Pending.attach {name : List Char} {names : List (List Char)} {a : Assembly}
    (h : Pending (name :: names) a) (e : Element) : Pending (name :: names) (a.attach e) := by
  obtain ⟨stack, root⟩ := a
  obtain ⟨hroot, hlength⟩ := h
  cases stack with
  | nil => cases hlength
  | cons top outer => exact ⟨hroot, hlength⟩

theorem Effect.pending {names names' : List (List Char)} {a a' : Assembly}
    (h : Effect m names a names' a') (ha : Pending names a) : Pending names' a' := by
  cases h with
  | aside => exact ha
  | cdata text => exact ha.addText text
  | start => exact ⟨ha.root, congrArg Nat.succ ha.length⟩
  | empty => exact ha.attach _
  | close inner name names top outer root =>
    have hinner : Pending (name :: names) ⟨outer, root⟩ := ⟨ha.root, by simpa using ha.length⟩
    exact hinner.attach _

theorem Effect.token {names names' : List (List Char)} {a a' : Assembly}
    (h : Effect m names a names' a') (ha : Pending names a) (hrule : rule.Completes content)
    (hjudge : rule.judge content = .ok m) : Token names a (bracketed content) names' a' := by
  refine ⟨⟨fun position rest => ?_, fun position rest => ?_⟩, by simp [bracketed], h.pending ha,
    fun p hp hne => hrule.rejects ha.root (prefix_of_prefix_bracketed hp hne)⟩
  · rw [hrule.scan hjudge]
    cases h with
    | aside => rfl
    | cdata => rfl
    | start h => simp only [Markup.events, Assembly.run, Assembly.step, h, Except.map]
    | empty h => simp only [Markup.events, Assembly.run, Assembly.step, h, Except.map]
    | close => simp only [Markup.events, if_pos, Assembly.run, Assembly.step]
  · rw [hrule.scan hjudge]
    cases h with
    | aside => rfl
    | cdata => rfl
    | start => rfl
    | empty => rfl
    | close => simp only [Markup.events, if_pos, Events.rootEnd?]; rfl

/-- The markup of an event with which the first top-level element ends. -/
inductive Finish : Markup → List (List Char) → Assembly → Element → Prop
  /-- An empty-element tag outside all elements. -/
  | empty {tag : List Char} {e : OpenElement} (h : OpenElement.ofTag tag = .ok e) :
    Finish (.empty tag) [] ⟨[], none⟩ e.close
  /-- A closing tag of the only open element. -/
  | close (name : List Char) (top : OpenElement) :
    Finish (.close name) [name] ⟨[top], none⟩ top.close

theorem Finish.closes {names : List (List Char)} {a : Assembly} {root : Element}
    (h : Finish m names a root) (hrule : rule.Completes content)
    (hjudge : rule.judge content = .ok m) (rest : List Char) :
    Closes names a root (bracketed content ++ rest) ('<' :: content) := by
  have hroot : a.root = none := by cases h <;> rfl
  refine ⟨⟨rest, bracketed_append content rest⟩, fun position => ?_,
    fun p hp => hrule.rejects hroot hp, fun position => ?_⟩
  · rw [hrule.scan hjudge]
    cases h with
    | empty => rfl
    | close => simp only [Markup.events, if_pos, Events.rootEnd?]; rfl
  · have hscan := hrule.scan hjudge names position []
    rw [List.append_nil] at hscan
    rw [show '<' :: content ++ ['>'] = bracketed content from rfl, hscan]
    cases h with
    | empty h =>
      simp only [Markup.events, Assembly.run, Assembly.step, h, Except.map, Events.scan]
      rfl
    | close =>
      simp only [Markup.events, if_pos, Assembly.run, Assembly.step, Events.scan]
      rfl

/-! ### Whole texts -/

/-- Markup of an accepted text either does something and leaves the first top-level element open, or
ends it. -/
theorem effect_or_finish {names : List (List Char)} {a : Assembly} {root : Element}
    {stop : Nat} {rest : List Char} (ha : Pending names a)
    (h : a.run (m.events names stop rest) = .ok root) :
    (∃ names' a', Effect m names a names' a') ∨ Finish m names a root := by
  obtain ⟨stack, r⟩ := a
  obtain ⟨hroot, hlength⟩ := ha
  obtain rfl : r = none := hroot
  cases m with
  | aside => exact .inl ⟨_, _, .aside names _⟩
  | cdata text => exact .inl ⟨_, _, .cdata text names _⟩
  | start tag =>
    cases hopen : OpenElement.ofTag tag with
    | error fault => simp [Markup.events, Assembly.run, Assembly.step, hopen, Except.map] at h
    | ok e => exact .inl ⟨_, _, .start hopen names _⟩
  | empty tag =>
    cases hopen : OpenElement.ofTag tag with
    | error fault => simp [Markup.events, Assembly.run, Assembly.step, hopen, Except.map] at h
    | ok e =>
      cases names with
      | cons name names => exact .inl ⟨_, _, .empty hopen name names _⟩
      | nil =>
        obtain rfl : stack = [] := List.length_eq_zero_iff.mp hlength
        simp only [Markup.events, Assembly.run, Assembly.step, hopen, Except.map] at h
        obtain rfl : root = e.close := eq_of_run rfl h
        exact .inr (.empty hopen)
  | close name =>
    cases names with
    | nil => cases h
    | cons expected outerNames =>
      simp only [Markup.events] at h
      split_ifs at h with hname
      · subst hname
        cases stack with
        | nil => cases hlength
        | cons top outer =>
          cases outerNames with
          | cons next names => exact .inl ⟨_, _, .close name next names top outer none⟩
          | nil =>
            obtain rfl : outer = [] := by simpa using hlength
            simp only [Assembly.run, Assembly.step] at h
            obtain rfl : root = top.close := eq_of_run rfl h
            exact .inr (.close name top)
      · cases h

/-- An accepted text that begins with an opening bracket begins with complete markup. -/
theorem exists_markup {names : List (List Char)} {a : Assembly} {root : Element} {position : Nat}
    {cs : List Char} (h : a.run (Events.scan names position ('<' :: cs)) = .ok root) :
    ∃ rule content m rest, '<' :: cs = bracketed content ++ rest ∧
      MarkupRule.Completes rule content ∧ rule.judge content = .ok m := by
  obtain ⟨rule, content, rest, hrule, hcut⟩ : ∃ rule content rest,
      MarkupRule.of? cs = .ok rule ∧ rule.cut cs = some (content, rest) := by
    by_contra hnone
    have hcut : ∀ rule, MarkupRule.of? cs = .ok rule → rule.cut cs = none := fun rule hrule => by
      cases hcut : rule.cut cs with
      | none => rfl
      | some pair => exact absurd ⟨rule, pair.1, pair.2, hrule, hcut⟩ hnone
    obtain ⟨stop, fault, hfail⟩ := scan_eq_fail hcut names position
    rw [hfail] at h
    cases h
  obtain ⟨rfl, hcompletes⟩ := completes_of_cut hrule hcut
  cases hjudge : rule.judge content with
  | error fault =>
    rw [scan_markup names position hrule hcut, hjudge] at h
    cases h
  | ok m => exact ⟨rule, content, m, rest, (bracketed_append content rest).symm, hcompletes, hjudge⟩

/-- An accepted text that begins with an ampersand begins with a complete reference. -/
theorem exists_reference {names : List (List Char)} {a : Assembly} {root : Element}
    {position : Nat} {cs : List Char}
    (h : a.run (Events.scan names position ('&' :: cs)) = .ok root) :
    ∃ name rest a', '&' :: cs = '&' :: (name ++ [';']) ++ rest ∧
      (∀ c ∈ name, inReference c = true) ∧ a.step (.reference name) = .ok a' := by
  rw [Events.scan] at h
  split at h
  · next rest hrest =>
    cases hstep : a.step (.reference (cs.takeWhile inReference)) with
    | error fault =>
      rw [Assembly.run, hstep] at h
      cases h
    | ok a' =>
      refine ⟨_, rest, a', ?_, fun c hc => List.mem_takeWhile_imp hc, hstep⟩
      have hcs := (List.takeWhile_append_dropWhile (p := inReference) (l := cs)).symm
      rw [hrest] at hcs
      simpa using hcs
  · cases h

/-- An accepted text has a first top-level element, which ends at a closing bracket. -/
theorem closes_of_run {names : List (List Char)} {a : Assembly} {root : Element} {position : Nat}
    {cs : List Char} (ha : Pending names a)
    (h : a.run (Events.scan names position cs) = .ok root) :
    ∃ before, Closes names a root cs before := by
  induction hlength : cs.length using Nat.strong_induction_on generalizing names a position cs with
  | _ n ih =>
    -- behind a piece of the text that leaves the element open, the rest is accepted as well
    have htoken : ∀ {piece rest names' a'}, cs = piece ++ rest → Token names a piece names' a' →
        ∃ before, Closes names a root cs before := by
      rintro piece rest names' a' rfl htoken
      rw [htoken.run] at h
      have hshorter : rest.length < n := by
        have := List.length_pos_iff.mpr htoken.ne_nil
        rw [List.length_append] at hlength
        omega
      obtain ⟨before, hbefore⟩ := ih _ hshorter htoken.pending h rfl
      exact ⟨piece ++ before, htoken.closes hbefore⟩
    cases cs with
    | nil =>
      obtain ⟨e, he⟩ := rejects_nil ha.root position
      rw [he] at h
      cases h
    | cons c cs =>
      by_cases hopen : c = '<'
      · subst hopen
        obtain ⟨rule, content, m, rest, hcs, hrule, hjudge⟩ := exists_markup h
        rw [hcs, hrule.scan hjudge] at h
        rcases effect_or_finish ha h with ⟨names', a', heffect⟩ | hfinish
        · exact htoken hcs (heffect.token ha hrule hjudge)
        · exact ⟨_, hcs ▸ hfinish.closes hrule hjudge rest⟩
      · by_cases hamp : c = '&'
        · subst hamp
          obtain ⟨name, rest, a', hcs, hname, hstep⟩ := exists_reference h
          exact htoken hcs (token_reference ha hname hstep)
        · exact htoken rfl (token_char ha hopen hamp)

/-! ### The byte order mark -/

/-- A text without the byte order mark that is passed over at its start. -/
def unmarked : List Char → List Char
  | '\uFEFF' :: cs => cs
  | cs => cs

/-- A text begins with a mark, or it is what is read. -/
theorem unmarked_cases (cs : List Char) :
    cs = '\uFEFF' :: unmarked cs ∨ cs.head? ≠ some '\uFEFF' ∧ unmarked cs = cs := by
  unfold unmarked
  split
  · exact .inl rfl
  · next hmark =>
    refine .inr ⟨fun hhead => ?_, rfl⟩
    obtain ⟨rest, rfl⟩ := List.head?_eq_some_iff.mp hhead
    exact hmark rest rfl

theorem unmarked_of_head {cs : List Char} (h : cs.head? ≠ some '\uFEFF') : unmarked cs = cs := by
  rcases unmarked_cases cs with hmark | ⟨-, heq⟩
  · exact absurd (by rw [hmark]; rfl) h
  · exact heq

theorem unmarked_prefix {p cs : List Char} (h : p <+: cs) : unmarked p <+: unmarked cs := by
  cases p with
  | nil => exact List.nil_prefix
  | cons c p =>
    obtain ⟨rest, rfl⟩ := h
    by_cases hc : c = '\uFEFF'
    · subst hc
      exact List.prefix_append p rest
    · rw [unmarked_of_head (by simpa using hc), unmarked_of_head (by simpa using hc)]
      exact List.prefix_append (c :: p) rest

/-- Part of what is read is what is read of part of the text. -/
theorem exists_unmarked_eq {q cs : List Char} (h : q <+: unmarked cs) :
    ∃ mark, mark ++ q <+: cs ∧ unmarked (mark ++ q) = q := by
  rcases unmarked_cases cs with hmark | ⟨hhead, heq⟩
  · refine ⟨['\uFEFF'], ?_, rfl⟩
    rw [hmark]
    exact (List.prefix_append_right_inj ['\uFEFF']).mpr h
  · rw [heq] at h
    refine ⟨[], h, unmarked_of_head ?_⟩
    cases q with
    | nil => simp
    | cons c q =>
      obtain ⟨rest, rfl⟩ := h
      exact hhead

theorem ofText_eq_scan (text : String) :
    Events.ofText text = Events.scan [] 0 (unmarked text.toList) := by
  rw [Events.ofText]
  split
  · next cs hmark => rw [hmark, unmarked]
  · next hmark => rw [unmarked]; exact hmark

theorem toList_withoutMark (text : String) :
    (Model.withoutMark text).toList = unmarked text.toList := by
  rw [Model.withoutMark]
  split
  · next rest hmark => rw [hmark, unmarked, String.toList_ofList]
  · next hmark => rw [unmarked]; exact hmark

/-- If every part of a text from its start on is rejected, the text is also rejected without its
mark. -/
theorem rejected_unmarked {cs : List Char} (h : ∀ p, p <+: cs → Rejects [] ⟨[], none⟩ p) :
    ∃ e, Assembly.run ⟨[], none⟩ (Events.scan [] 0 (unmarked cs)) = .error e := by
  rcases unmarked_cases cs with hmark | ⟨-, heq⟩
  · cases hrun : Assembly.run ⟨[], none⟩ (Events.scan [] 0 (unmarked cs)) with
    | error e => exact ⟨e, rfl⟩
    | ok root =>
      -- the document that would be read ends somewhere, and is read behind the mark as well
      obtain ⟨before, hcloses⟩ := closes_of_run ⟨rfl, rfl⟩ hrun
      obtain ⟨rest, hrest⟩ := hcloses.split
      have hpart : '\uFEFF' :: (before ++ ['>']) <+: cs := ⟨rest, by rw [hmark, hrest]; simp⟩
      obtain ⟨e, he⟩ := h _ hpart 0
      rw [run_scan_char _ _ _ _ (by decide) (by decide)] at he
      have hcomplete := hcloses.complete (0 + '\uFEFF'.utf8Size)
      rw [show Assembly.addText ⟨[], none⟩ ['\uFEFF'] = ⟨[], none⟩ from rfl, hcomplete] at he
      cases he
  · rw [heq]
    exact h cs (List.prefix_refl cs) 0

/-! ### Documents -/

/-- A text that is accepted has a first top-level element, with which a document is complete. A part
of the text that ends before the final character of that element is no document, and no entities
are loaded from it. -/
theorem parseDocument_truncated {text : String} {root : Element}
    (h : parseDocument text = .ok root) :
    ∃ stop, (Events.ofText text).rootEnd? 0 = some stop ∧
      (∃ whole : String, whole.toList <+: text.toList ∧ whole.toList.getLast? = some '>' ∧
        byteLength (unmarked whole.toList) = stop ∧ parseDocument whole = .ok root) ∧
      ∀ part : String, part.toList <+: text.toList → byteLength (unmarked part.toList) < stop →
        (∃ e, parseDocument part = .error e) ∧
          ∀ naming, ∃ e, Model.loadText naming part = .error (.document e) := by
  rw [parseDocument, ofText_eq_scan] at h
  obtain ⟨before, hcloses⟩ := closes_of_run ⟨rfl, rfl⟩ h
  obtain ⟨rest, hrest⟩ := hcloses.split
  refine ⟨_, by rw [ofText_eq_scan]; exact hcloses.rootEnd 0, ?_, fun part hpart hstop => ?_⟩
  · have hread : before ++ ['>'] <+: unmarked text.toList := ⟨rest, by rw [hrest]; simp⟩
    obtain ⟨mark, hprefix, hunmarked⟩ := exists_unmarked_eq hread
    refine ⟨String.ofList (mark ++ (before ++ ['>'])), ?_, ?_, ?_, ?_⟩
    · rwa [String.toList_ofList]
    · simp
    · rw [String.toList_ofList, hunmarked, Nat.zero_add]
    · rw [parseDocument, ofText_eq_scan, String.toList_ofList, hunmarked]
      exact hcloses.complete 0
  · have hbefore : unmarked part.toList <+: before := by
      have hpart' : unmarked part.toList <+: (before ++ ['>']) ++ rest := by
        simpa [hrest] using unmarked_prefix hpart
      rcases prefix_append_cases hpart' with ⟨hinside, hne⟩ | ⟨p', heq, -⟩
      · exact (List.prefix_concat_iff.mp hinside).resolve_left hne
      · rw [heq, byteLength_append (before ++ ['>'])] at hstop
        omega
    have hrejected : ∀ p, p <+: unmarked part.toList → Rejects [] ⟨[], none⟩ p := fun p hp =>
      hcloses.short p (hp.trans hbefore)
    refine ⟨?_, fun naming => ?_⟩
    · rw [parseDocument, ofText_eq_scan]
      exact hrejected _ (List.prefix_refl _) 0
    · obtain ⟨e, he⟩ := rejected_unmarked hrejected
      refine ⟨e, ?_⟩
      rw [Model.loadText, Model.parse, parseDocument, ofText_eq_scan, toList_withoutMark, he]
      rfl

/-- A document whose element ends behind a bracket in a value and in front of a comment, and a part
of it that lacks the final character of the element. -/
theorem parseDocument_open_tag :
    parseDocument "<a b='>'>x</a><!-- y -->" = .ok ⟨"a", [("b", ">")], [], "x"⟩ ∧
      (Events.ofText "<a b='>'>x</a><!-- y -->").rootEnd? 0 = some 14 ∧
      (∃ e, parseDocument "<a b='>'>x</a" = .error e) ∧
      ∃ e, Model.loadText {} "<a b='>'>x</a" = .error (.document e) := by
  have hparse : parseDocument "<a b='>'>x</a><!-- y -->" = .ok ⟨"a", [("b", ">")], [], "x"⟩ := by
    rw [parseDocument, ofText_eq_scan]
    with_unfolding_all rfl
  have hend : (Events.ofText "<a b='>'>x</a><!-- y -->").rootEnd? 0 = some 14 := by
    rw [ofText_eq_scan]
    with_unfolding_all rfl
  obtain ⟨stop, hstop, -, hparts⟩ := parseDocument_truncated hparse
  obtain rfl : stop = 14 := Option.some.inj (hstop.symm.trans hend)
  obtain ⟨hrejected, hloaded⟩ := hparts "<a b='>'>x</a" (by decide +kernel) (by decide +kernel)
  exact ⟨hparse, hend, hrejected, hloaded {}⟩

end EntityForge.Xml
