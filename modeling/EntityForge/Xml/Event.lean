import EntityForge.Xml.Tag

/-!
# The events of an XML text

A text is read from left to right as a sequence of events: tags, runs of text, CDATA sections,
references and asides, which are comments, processing instructions, declarations and document types.
The sequence ends where the text ends or at the first fault of the markup.

Every event carries the number of bytes read when it is complete, which is the position that a fault
inside it is reported at. The names of the open elements are kept, since a closing tag that does not
bear the name of the innermost one is a fault.
-/

namespace EntityForge.Xml

/-- A piece of an XML text. -/
inductive Event
  /-- A start tag, by its content. -/
  | start (tag : List Char)
  /-- An empty-element tag, by its content without the closing slash. -/
  | empty (tag : List Char)
  /-- A closing tag. -/
  | close
  /-- A run of text without markup and references. -/
  | text (content : List Char)
  /-- A CDATA section. -/
  | cdata (content : List Char)
  /-- A reference, by what stands between `&` and `;`. -/
  | reference (name : List Char)
  /-- A comment, processing instruction, declaration or document type. Its content is not kept, as
  nothing looks at it. -/
  | aside
  deriving DecidableEq, Repr

/-- The events of a text in order, each with the position after it, and how they end. -/
inductive Events
  /-- The text ends. -/
  | done (position : Nat)
  /-- The markup is at fault. -/
  | fail (position : Nat) (fault : Fault)
  /-- An event and those after it. -/
  | next (event : Event) (position : Nat) (rest : Events)
  deriving DecidableEq, Repr

/-- Reads up to and including the first character at which `ends` holds of the characters read so
far, the latest first. The result is what was read, in order and without that character, and the
rest. -/
def cutAt (ends : List Char → Bool) (seen : List Char) :
    List Char → Option (List Char × List Char)
  | [] => none
  | c :: cs => if ends (c :: seen) then some (seen.reverse, cs) else cutAt ends (c :: seen) cs

/-- Whether the characters read from the `!` on, the latest first, complete a comment. -/
def endsComment : List Char → Bool
  | '>' :: '-' :: '-' :: before => 3 ≤ before.length
  | _ => false

/-- Whether the characters read, the latest first, complete a CDATA section. -/
def endsCData : List Char → Bool
  | '>' :: ']' :: ']' :: _ => true
  | _ => false

/-- Whether the characters read, the latest first, complete a processing instruction. -/
def endsInstruction : List Char → Bool
  | '>' :: '?' :: _ => true
  | _ => false

/-- Reads a document type up to the angle bracket that balances the one it began with. -/
def cutDoctype (depth : Nat) (seen : List Char) : List Char → Option (List Char × List Char)
  | [] => none
  | '<' :: cs => cutDoctype (depth + 1) ('<' :: seen) cs
  | '>' :: cs =>
    match depth with
    | 0 => some (seen.reverse, cs)
    | d + 1 => cutDoctype d ('>' :: seen) cs
  | c :: cs => cutDoctype depth (c :: seen) cs

/-- Reads a tag up to the first closing angle bracket outside quotes. `quote` is the quote that is
open, if one is. -/
def cutTag (quote : Option Char) (seen : List Char) : List Char → Option (List Char × List Char)
  | [] => none
  | c :: cs =>
    match quote with
    | some q => cutTag (if c = q then none else some q) (c :: seen) cs
    | none =>
      if c = '>' then some (seen.reverse, cs)
      else cutTag (if c = '"' ∨ c = '\'' then some c else none) (c :: seen) cs

theorem cutAt_length {ends : List Char → Bool} {seen cs content rest : List Char}
    (h : cutAt ends seen cs = some (content, rest)) : rest.length < cs.length := by
  induction cs generalizing seen with
  | nil => simp [cutAt] at h
  | cons c cs ih =>
    simp only [cutAt] at h
    split at h
    · simp only [Option.some.injEq, Prod.mk.injEq] at h
      simp [h.2]
    · have := ih h
      simp only [List.length_cons]
      omega

theorem cutDoctype_length {depth : Nat} {seen cs content rest : List Char}
    (h : cutDoctype depth seen cs = some (content, rest)) : rest.length < cs.length := by
  fun_induction cutDoctype depth seen cs with
  | case1 => simp at h
  | case3 seen cs => simp_all
  | case2 depth seen cs ih | case4 depth seen cs ih | case5 depth seen c cs h₁ h₂ ih =>
    have := ih h
    simp only [List.length_cons]
    omega

theorem cutTag_length {quote : Option Char} {seen cs content rest : List Char}
    (h : cutTag quote seen cs = some (content, rest)) : rest.length < cs.length := by
  fun_induction cutTag quote seen cs with
  | case1 => simp at h
  | case3 => simp_all
  | case2 _ _ _ _ ih | case4 _ _ _ _ ih =>
    have := ih h
    simp only [List.length_cons]
    omega

/-- What the markup that starts at an angle bracket is, once it has been read in full. -/
inductive Markup
  /-- A comment, processing instruction, declaration or document type. -/
  | aside
  /-- A CDATA section. -/
  | cdata (content : List Char)
  /-- A start tag. -/
  | start (tag : List Char)
  /-- An empty-element tag. -/
  | empty (tag : List Char)
  /-- A closing tag, by its name. -/
  | close (name : List Char)

/-- A text in ASCII lower case. -/
def lowered (cs : List Char) : List Char :=
  cs.map Char.toLower

/-- The name in a closing tag: the content without white space at its end, unless nothing else is
there. -/
def closeName (content : List Char) : List Char :=
  match content.reverse.dropWhile isSpace with
  | [] => content
  | rest => rest.reverse

/-- The markup of a tag, given its content. -/
def tagMarkup (content : List Char) : Markup :=
  match content with
  | '/' :: name => .close (closeName name)
  | _ =>
    if content.getLast? = some '/' then .empty content.dropLast else .start content

/-- The fault of a comment, judged by its content from the `!` on. -/
def commentMarkup (content : List Char) : Except Fault Markup :=
  match content with
  | '!' :: '-' :: '-' :: _ => .ok .aside
  | _ => .error .unclosedComment

/-- The markup of a CDATA section, judged by its content from the `!` on. -/
def cdataMarkup (content : List Char) : Except Fault Markup :=
  match content with
  | '!' :: '[' :: 'C' :: 'D' :: 'A' :: 'T' :: 'A' :: '[' :: text =>
    .ok (.cdata (text.dropLast.dropLast))
  | _ => .error .unclosedCData

/-- The markup of a document type, judged by its content from the `!` on. -/
def doctypeMarkup (content : List Char) : Except Fault Markup :=
  if lowered (content.take 8) = "!doctype".toList then
    if (content.drop 8).all isSpace then .error .namelessDoctype else .ok .aside
  else .error .unclosedDoctype

/-- The markup of a processing instruction, judged by its content from the question mark on. -/
def instructionMarkup (content : List Char) : Except Fault Markup :=
  if 2 ≤ content.length then .ok .aside else .error .unclosedInstruction

/-- The way a piece of markup is read: up to where it goes, what it then is, and the fault of a text
that ends first. -/
structure MarkupRule where
  /-- Cuts the content off the text. -/
  cut : List Char → Option (List Char × List Char)
  /-- Judges the content. -/
  judge : List Char → Except Fault Markup
  /-- The fault of a text that ends inside. -/
  unclosed : Fault
  /-- What is left is shorter. -/
  cut_length : ∀ {cs content rest}, cut cs = some (content, rest) → rest.length < cs.length

/-- The rule for what follows an opening angle bracket, chosen by its first characters. -/
def MarkupRule.of? : List Char → Except Fault MarkupRule
  | '!' :: '[' :: _ => .ok ⟨cutAt endsCData [], cdataMarkup, .unclosedCData, cutAt_length⟩
  | '!' :: '-' :: _ => .ok ⟨cutAt endsComment [], commentMarkup, .unclosedComment, cutAt_length⟩
  | '!' :: 'D' :: _ | '!' :: 'd' :: _ =>
    .ok ⟨cutDoctype 0 [], doctypeMarkup, .unclosedDoctype, cutDoctype_length⟩
  | '!' :: _ => .error .unknownMarkup
  | '?' :: _ =>
    .ok ⟨cutAt endsInstruction [], instructionMarkup, .unclosedInstruction, cutAt_length⟩
  | _ => .ok ⟨cutTag none [], fun content => .ok (tagMarkup content), .unclosedTag, cutTag_length⟩

/-- Whether a character belongs to a run of text. -/
def inText (c : Char) : Bool :=
  c != '<' && c != '&'

/-- Whether a character can stand in a reference of a text. -/
def inReference (c : Char) : Bool :=
  c != ';' && c != '&' && c != '<'

/-- The events of a text, read from a position on, inside the open elements of the given qualified
names, the innermost first. -/
def Events.scan (names : List (List Char)) (position : Nat) : List Char → Events
  | [] => .done position
  | '<' :: cs =>
    match MarkupRule.of? cs with
    | .error fault => .fail (position + 1) fault
    | .ok rule =>
      match h : rule.cut cs with
      | none => .fail (position + 1 + byteLength cs) rule.unclosed
      | some (content, rest) =>
        let stop := position + 1 + byteLength content + 1
        match rule.judge content with
        | .error fault => .fail stop fault
        | .ok .aside => .next .aside stop (scan names stop rest)
        | .ok (.cdata text) => .next (.cdata text) stop (scan names stop rest)
        | .ok (.start tag) => .next (.start tag) stop (scan (tagName tag :: names) stop rest)
        | .ok (.empty tag) => .next (.empty tag) stop (scan names stop rest)
        | .ok (.close name) =>
          match names with
          | [] => .fail stop (.unopenedClose (String.ofList name))
          | expected :: outer =>
            if name = expected then .next .close stop (scan outer stop rest)
            else .fail stop (.mismatchedClose (String.ofList expected) (String.ofList name))
  | '&' :: cs =>
    let name := cs.takeWhile inReference
    let stop := position + 1 + byteLength name
    match h : cs.dropWhile inReference with
    | ';' :: rest => .next (.reference name) (stop + 1) (scan names (stop + 1) rest)
    | _ => .fail stop .unclosedReference
  | c :: cs =>
    let text := c :: cs.takeWhile inText
    let stop := position + byteLength text
    .next (.text text) stop (scan names stop (cs.dropWhile inText))
  termination_by cs => cs.length
  decreasing_by
    all_goals simp only [List.length_cons]
    any_goals
      have := rule.cut_length h
      omega
    · have hle := (List.dropWhile_sublist inReference (l := cs)).length_le
      rw [h] at hle
      simp only [List.length_cons] at hle
      omega
    · have hle := (List.dropWhile_sublist inText (l := cs)).length_le
      omega

/-- The events of a whole text. A byte order mark at its start is passed over and not counted. -/
def Events.ofText (text : String) : Events :=
  match text.toList with
  | '\uFEFF' :: cs => scan [] 0 cs
  | cs => scan [] 0 cs

end EntityForge.Xml
