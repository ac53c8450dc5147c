import EntityForge.Proofs.Xml.Elements
import EntityForge.Proofs.Xml.Markup
import EntityForge.Xml.Document

/-!
# Reading documents back

A document that was written for a tree is read as that tree, however it was written. What a piece of
text does to an assembly is stated whatever follows it, so that pieces can be put together as they
are in the grammar; one lemma says what each kind of piece does, and an induction over the way an
element was written what the element does.

Text is handed over one character at a time. A run of text that is read at once comes to the same,
since adding one text after another is adding both.

The grammar leaves out no name, no value and no text, but for the character of number zero in
values, so there is a document for every other plain tree.
-/

namespace EntityForge.Xml

open Grammar
open Text (takeWhile_append_cons dropWhile_append_cons)

/-! ### Runs of text -/

theorem addText_addText (a : Assembly) (xs ys : List Char) :
    (a.addText xs).addText ys = a.addText (xs ++ ys) := by
  obtain ⟨stack, root⟩ := a
  cases stack with
  | nil => rfl
  | cons top outer =>
    simp only [Assembly.addText, OpenElement.addText, String.ofList_append, String.append_assoc]

theorem scan_text (names : List (List Char)) (position : Nat) {c : Char} (cs : List Char)
    (hopen : c ≠ '<') (hamp : c ≠ '&') :
    Events.scan names position (c :: cs) =
      .next (.text (c :: cs.takeWhile inText)) (position + byteLength (c :: cs.takeWhile inText))
        (Events.scan names (position + byteLength (c :: cs.takeWhile inText))
          (cs.dropWhile inText)) := by
  rw [Events.scan]
  · exact hopen
  · exact hamp

/-- One character of a text is handed over before those behind it. -/
theorem run_scan_char (a : Assembly) (names : List (List Char)) (position : Nat) {c : Char}
    (cs : List Char) (hopen : c ≠ '<') (hamp : c ≠ '&') :
    a.run (Events.scan names position (c :: cs)) =
      (a.addText [c]).run (Events.scan names (position + c.utf8Size) cs) := by
  rw [scan_text names position cs hopen hamp, Assembly.run, Assembly.step]
  simp only
  cases cs with
  | nil => rfl
  | cons d ds =>
    by_cases hd : inText d = true
    · have hd' : d ≠ '<' ∧ d ≠ '&' := by simpa [inText] using hd
      rw [scan_text names _ ds hd'.1 hd'.2, Assembly.run, Assembly.step, addText_addText,
        List.takeWhile_cons_of_pos hd, List.dropWhile_cons_of_pos hd]
      simp only [byteLength, List.foldr_cons, Nat.add_assoc, List.singleton_append]
    · rw [List.takeWhile_cons_of_neg hd, List.dropWhile_cons_of_neg hd]
      rfl

/-! ### Pieces of a text -/

/-- Reading a text takes one assembly to another, and the names of the open elements to others,
whatever follows the text. -/
def Reads (names : List (List Char)) (a : Assembly) (cs : List Char) (names' : List (List Char))
    (a' : Assembly) : Prop :=
  ∀ position rest, ∃ position',
    a.run (Events.scan names position (cs ++ rest)) = a'.run (Events.scan names' position' rest)

theorem Reads.nil (names : List (List Char)) (a : Assembly) : Reads names a [] names a :=
  fun position _ => ⟨position, rfl⟩

/-- One text after another. -/
theorem Reads.append {names names₁ names' : List (List Char)} {a a₁ a' : Assembly}
    {xs ys : List Char} (hx : Reads names a xs names₁ a₁) (hy : Reads names₁ a₁ ys names' a') :
    Reads names a (xs ++ ys) names' a' := by
  intro position rest
  obtain ⟨position₁, h₁⟩ := hx position (ys ++ rest)
  obtain ⟨position', h'⟩ := hy position₁ rest
  exact ⟨position', by rw [List.append_assoc, h₁, h']⟩

theorem reads_char (names : List (List Char)) (a : Assembly) {c : Char} (hopen : c ≠ '<')
    (hamp : c ≠ '&') : Reads names a [c] names (a.addText [c]) :=
  fun position rest => ⟨_, run_scan_char a names position rest hopen hamp⟩

theorem inReference_of_mem {c d : Char} {name : List Char} (h : Reference c name)
    (hd : d ∈ name) : inReference d = true := by
  have hamp := ne_of_mem_reference (x := '&') h hd (by decide) (by decide)
  have hend := ne_of_mem_reference (x := ';') h hd (by decide) (by decide)
  have hopen := ne_of_mem_reference (x := '<') h hd (by decide) (by decide)
  simp [inReference, hamp, hend, hopen]

/-- A reference inside an element adds its character. -/
theorem reads_reference (names : List (List Char)) (top : OpenElement) (outer : List OpenElement)
    (root : Option Element) {c : Char} {name : List Char} (h : Reference c name) :
    Reads names ⟨top :: outer, root⟩ ('&' :: (name ++ [';'])) names
      ⟨top.addText [c] :: outer, root⟩ := by
  intro position rest
  have hin := fun d hd => inReference_of_mem (d := d) h hd
  have hdrop := dropWhile_append_cons (y := ';') rest hin (by decide)
  rw [List.cons_append, List.append_assoc, List.singleton_append, Events.scan]
  split
  · next after hafter =>
    rw [hdrop] at hafter
    cases hafter
    rw [Assembly.run, takeWhile_append_cons rest hin (by decide)]
    simp only [Assembly.step, resolveReference_of_reference h, Except.map]
    exact ⟨_, rfl⟩
  · next hother => exact absurd hdrop (hother rest)

/-! ### Markup -/

/-- Markup is read by the rule that its first characters choose. -/
theorem scan_markup (names : List (List Char)) (position : Nat) {cs content rest : List Char}
    {rule : MarkupRule} (hrule : MarkupRule.of? cs = .ok rule)
    (hcut : rule.cut cs = some (content, rest)) :
    Events.scan names position ('<' :: cs) =
      let stop := position + 1 + byteLength content + 1
      match rule.judge content with
      | .error fault => .fail stop fault
      | .ok .aside => .next .aside stop (Events.scan names stop rest)
      | .ok (.cdata text) => .next (.cdata text) stop (Events.scan names stop rest)
      | .ok (.start tag) => .next (.start tag) stop (Events.scan (tagName tag :: names) stop rest)
      | .ok (.empty tag) => .next (.empty tag) stop (Events.scan names stop rest)
      | .ok (.close name) =>
        match names with
        | [] => .fail stop (.unopenedClose (String.ofList name))
        | expected :: outer =>
          if name = expected then .next .close stop (Events.scan outer stop rest)
          else .fail stop (.mismatchedClose (String.ofList expected) (String.ofList name)) := by
  rw [Events.scan, hrule]
  simp only
  split
  · next hnone => rw [hcut] at hnone; cases hnone
  · next hsome =>
    rw [hcut] at hsome
    cases hsome
    rfl

theorem reads_cdata (names : List (List Char)) (a : Assembly) {cs : List Char}
    (h : ¬ [']', ']', '>'] <:+: cs) :
    Reads names a ('<' :: '!' :: cdataStart ++ (cs ++ [']', ']', '>'])) names (a.addText cs) := by
  intro position rest
  have hcut := cutAt_cdata rest h
  have hshape : '<' :: '!' :: cdataStart ++ (cs ++ [']', ']', '>']) ++ rest =
      '<' :: ('!' :: cdataStart ++ (cs ++ [']', ']']) ++ '>' :: rest) := by simp
  rw [hshape, scan_markup names position rfl hcut]
  simp only [cdataMarkup_eq]
  exact ⟨_, rfl⟩

/-- Comments and processing instructions are passed over. -/
theorem reads_aside (names : List (List Char)) (a : Assembly) {cs : List Char} (h : Aside cs) :
    Reads names a cs names a := by
  intro position rest
  cases h with
  | @comment cs h =>
    have hcut := cutAt_comment rest h
    have hshape : '<' :: '!' :: '-' :: '-' :: (cs ++ ['-', '-', '>']) ++ rest =
        '<' :: ('!' :: '-' :: '-' :: (cs ++ ['-', '-']) ++ '>' :: rest) := by simp
    rw [hshape, scan_markup names position rfl hcut]
    exact ⟨_, rfl⟩
  | @instruction cs h =>
    have hcut := cutAt_instruction rest h
    have hshape : '<' :: '?' :: (cs ++ ['?', '>']) ++ rest =
        '<' :: ('?' :: cs ++ ['?'] ++ '>' :: rest) := by simp
    rw [hshape, scan_markup names position rfl hcut]
    simp only [instructionMarkup_eq]
    exact ⟨_, rfl⟩

/-! ### Tags -/

theorem ofTag_of_tag {name : String} {attributes : List (String × String)} {key tag : List Char}
    (hplain : PlainTag name attributes) (h : Tag name attributes key tag) :
    OpenElement.ofTag tag = .ok ⟨name, attributes, [], ""⟩ := by
  have hlocal : String.ofList (localName key) = name := by
    cases h with
    | intro hkey _ _ _ => exact localName_of_qualified hplain.isName hkey
  rw [OpenElement.ofTag, attributes_of_tag hplain.isName hplain.isKey hplain.distinct h,
    tagName_of_tag hplain.isName h, hlocal]
  rfl

/-- A start tag opens an element. -/
theorem reads_start (names : List (List Char)) (a : Assembly) {name : String}
    {attributes : List (String × String)} {key tag : List Char}
    (hplain : PlainTag name attributes) (h : Tag name attributes key tag) :
    Reads names a ('<' :: (tag ++ ['>'])) (key :: names)
      { a with stack := ⟨name, attributes, [], ""⟩ :: a.stack } := by
  intro position rest
  have hcut := cutTag_of_passes rest
    (passes_tag hplain.isName (fun a ha => (hplain.isKey a ha).1) h)
  have hlast := getLast?_ne_of_tag hplain.isName h
  have hopen := ofTag_of_tag hplain h
  have hname := tagName_of_tag hplain.isName h
  obtain ⟨k, cs, rfl, hk⟩ := exists_cons_of_tag hplain.isName h
  have hrule := of?_eq_tag (cs ++ '>' :: rest)
    (ne_of_inName (d := '!') (inName_of_startsName hk) (by decide))
    (ne_of_inName (d := '?') (inName_of_startsName hk) (by decide))
  rw [List.cons_append] at hcut
  have hshape : '<' :: (k :: cs ++ ['>']) ++ rest = '<' :: k :: (cs ++ '>' :: rest) := by simp
  rw [hshape, scan_markup names position hrule hcut]
  simp only [tagMarkup_start hk hlast, Assembly.run, Assembly.step, hopen, Except.map, hname]
  exact ⟨_, rfl⟩

/-- An empty-element tag hands over an element without content. -/
theorem reads_empty (names : List (List Char)) (a : Assembly) {name : String}
    {attributes : List (String × String)} {key tag : List Char}
    (hplain : PlainTag name attributes) (h : Tag name attributes key tag) :
    Reads names a ('<' :: (tag ++ ['/', '>'])) names (a.attach ⟨name, attributes, [], ""⟩) := by
  intro position rest
  have hslash : Passes ['/'] := passes_cons (by decide) (by decide) Passes.nil
  have hpasses := (passes_tag hplain.isName (fun a ha => (hplain.isKey a ha).1) h).append hslash
  have hcut := cutTag_of_passes rest hpasses
  have hopen := ofTag_of_tag hplain h
  obtain ⟨k, cs, rfl, hk⟩ := exists_cons_of_tag hplain.isName h
  have hrule := of?_eq_tag (cs ++ ['/'] ++ '>' :: rest)
    (ne_of_inName (d := '!') (inName_of_startsName hk) (by decide))
    (ne_of_inName (d := '?') (inName_of_startsName hk) (by decide))
  rw [List.cons_append, List.cons_append] at hcut
  have hshape : '<' :: (k :: cs ++ ['/', '>']) ++ rest =
      '<' :: k :: (cs ++ ['/'] ++ '>' :: rest) := by simp
  have hmarkup : tagMarkup (k :: (cs ++ ['/'])) = .empty (k :: cs) := tagMarkup_empty hk
  rw [hshape, scan_markup names position hrule hcut]
  simp only [hmarkup, Assembly.run, Assembly.step, hopen, Except.map]
  exact ⟨_, rfl⟩

/-- A closing tag of the innermost element closes it. -/
theorem reads_close (names : List (List Char)) (top : OpenElement) (outer : List OpenElement)
    (root : Option Element) {key space : List Char} (hkey : IsKey key) (hspace : Space space) :
    Reads (key :: names) ⟨top :: outer, root⟩ ('<' :: '/' :: (key ++ (space ++ ['>']))) names
      (Assembly.attach ⟨outer, root⟩ top.close) := by
  intro position rest
  have hpasses := passes_cons (c := '/') (by decide) (by decide)
    ((passes_key hkey).append (passes_space hspace))
  have hcut := cutTag_of_passes rest hpasses
  rw [List.cons_append] at hcut
  have hshape : '<' :: '/' :: (key ++ (space ++ ['>'])) ++ rest =
      '<' :: '/' :: (key ++ space ++ '>' :: rest) := by simp
  have hrule := of?_eq_tag (c := '/') (key ++ space ++ '>' :: rest) (by decide) (by decide)
  rw [hshape, scan_markup (key :: names) position hrule hcut]
  simp only [tagMarkup, closeName_of_key hkey hspace, if_pos, Assembly.run, Assembly.step]
  exact ⟨_, rfl⟩

/-! ### Elements -/

/-- Trimming takes away what is blank around a trimmed text and no more. -/
theorem trimChars_of_padded {text cs : List Char} (h : Padded text cs) (htrimmed : Trimmed text) :
    Text.trimChars cs = text := by
  cases h with
  | intro hbefore hafter =>
    have hend : Text.Ends Text.isBlank text.reverse := fun c hc =>
      htrimmed.last c (List.head?_reverse ▸ hc)
    rw [← List.append_assoc, Text.trimChars_append text hbefore hafter,
      Text.trimChars_eq_self htrimmed.first hend]

/-- An open element with more children and more text. -/
def OpenElement.extend (top : OpenElement) (elements : List Element) (text : List Char) :
    OpenElement :=
  { top with latest := elements.reverse ++ top.latest, text := top.text ++ String.ofList text }

theorem extend_addText (top : OpenElement) (elements : List Element) (piece text : List Char) :
    (top.addText piece).extend elements text = top.extend elements (piece ++ text) := by
  simp only [OpenElement.extend, OpenElement.addText, String.ofList_append, String.append_assoc]

theorem extend_addChild (top : OpenElement) (e : Element) (elements : List Element)
    (text : List Char) :
    (top.addChild e).extend elements text = top.extend (e :: elements) text := by
  simp only [OpenElement.extend, OpenElement.addChild, List.reverse_cons, List.append_assoc,
    List.singleton_append]

/-- A closed element has the children in order and the text without the blank characters around
it. -/
theorem close_extend (name : String) (attributes : List (String × String))
    (children : List Element) {text : String} {all : List Char} (hpadded : Padded text.toList all)
    (htrimmed : Trimmed text.toList) :
    (OpenElement.extend ⟨name, attributes, [], ""⟩ children all).close =
      ⟨name, attributes, children, text⟩ := by
  simp only [OpenElement.close, OpenElement.extend, List.append_nil, List.reverse_reverse,
    String.empty_append, Text.trim, String.toList_ofList, trimChars_of_padded hpadded htrimmed,
    String.ofList_toList]

mutual

/-- An element that was written is handed over as it was. -/
theorem reads_written : ∀ {e : Element} {cs : List Char}, Written e cs → Plain e →
    ∀ (names : List (List Char)) (a : Assembly), Reads names a cs names (a.attach e)
  | _, _, .empty h, .intro htag _ _, names, a => reads_empty names a htag h
  | _, _, .full h hcontent hpadded hspace, .intro htag htrimmed hchildren, names, a => by
    rename_i name text attributes children key tag all content space
    have hkey : IsKey key := by
      cases h with
      | intro hkey _ _ _ => exact isKey_of_qualified htag.isName hkey
    have hstart := reads_start names a htag h
    have hinside := reads_content hcontent hchildren (key :: names) ⟨name, attributes, [], ""⟩
      a.stack a.root
    have hclose := reads_close names (OpenElement.extend ⟨name, attributes, [], ""⟩ children all)
      a.stack a.root hkey hspace
    have hread := (hstart.append hinside).append hclose
    rw [close_extend name attributes children hpadded htrimmed] at hread
    simpa using hread

/-- Content that was written adds its elements and its text to the innermost open element. -/
theorem reads_content : ∀ {elements : List Element} {text cs : List Char},
    Content elements text cs → (∀ e ∈ elements, Plain e) → ∀ (names : List (List Char))
    (top : OpenElement) (outer : List OpenElement) (root : Option Element),
    Reads names ⟨top :: outer, root⟩ cs names ⟨top.extend elements text :: outer, root⟩
  | _, _, _, .nil, _, names, top, outer, root => by
    have hnone : top.extend [] [] = top := by
      simp [OpenElement.extend]
    rw [hnone]
    exact Reads.nil _ _
  | _, _, _, .char hopen hamp h, hplain, names, top, outer, root => by
    have hread := (reads_char names ⟨top :: outer, root⟩ hopen hamp).append
      (reads_content h hplain names (top.addText [_]) outer root)
    rwa [extend_addText] at hread
  | _, _, _, .reference href h, hplain, names, top, outer, root => by
    have hread := (reads_reference names top outer root href).append
      (reads_content h hplain names (top.addText [_]) outer root)
    rw [extend_addText] at hread
    simpa using hread
  | _, _, _, .cdata hpiece h, hplain, names, top, outer, root => by
    have hread := (reads_cdata names ⟨top :: outer, root⟩ hpiece).append
      (reads_content h hplain names (top.addText _) outer root)
    rw [extend_addText] at hread
    simpa using hread
  | _, _, _, .aside haside h, hplain, names, top, outer, root =>
    (reads_aside names ⟨top :: outer, root⟩ haside).append
      (reads_content h hplain names top outer root)
  | _, _, _, .element hwritten h, hplain, names, top, outer, root => by
    have hread := (reads_written hwritten (hplain _ List.mem_cons_self) names
      ⟨top :: outer, root⟩).append (reads_content h
        (fun d hd => hplain d (List.mem_cons_of_mem _ hd)) names (top.addChild _) outer root)
    rwa [extend_addChild] at hread

end

/-! ### Documents -/

theorem reads_misc {cs : List Char} (h : Misc cs) (root : Option Element) :
    Reads [] ⟨[], root⟩ cs [] ⟨[], root⟩ := by
  induction h with
  | nil => exact Reads.nil _ _
  | @space space cs hspace _ ih =>
    refine Reads.append ?_ ih
    induction space with
    | nil => exact Reads.nil _ _
    | cons c rest ih' =>
      have hc : c ≠ '<' ∧ c ≠ '&' := by
        rcases hspace c List.mem_cons_self with rfl | rfl | rfl | rfl <;> decide
      exact (reads_char [] ⟨[], root⟩ hc.1 hc.2).append
        (ih' fun d hd => hspace d (List.mem_cons_of_mem c hd))
  | aside haside _ ih => exact (reads_aside [] ⟨[], root⟩ haside).append ih

/-- No document begins with a byte order mark. -/
theorem head_ne_of_written {before markup : List Char} {root : Element} (hbefore : Misc before)
    (h : Written root markup) : ∀ rest, (before ++ (markup ++ rest)).head? ≠ some '\uFEFF' := by
  intro rest
  have hmarkup : ∀ rest, (markup ++ rest).head? ≠ some '\uFEFF' := by
    cases h <;> simp
  induction hbefore with
  | nil => exact hmarkup rest
  | @space space cs hspace _ ih =>
    cases space with
    | nil => exact ih
    | cons c cs =>
      have hc : c ≠ '\uFEFF' := by
        rcases hspace c List.mem_cons_self with rfl | rfl | rfl | rfl <;> decide
      simpa using hc
  | aside haside _ ih => cases haside <;> simp

theorem ofText_of_head {cs : List Char} (h : cs.head? ≠ some '\uFEFF') :
    Events.ofText (String.ofList cs) = Events.scan [] 0 cs := by
  rw [Events.ofText, String.toList_ofList]
  split
  · exact absurd rfl h
  · rfl

/-- A text without a byte order mark is read from its first character on. -/
theorem parseDocument_of_toList {text : String} {cs : List Char} (h : text.toList = cs)
    (hmark : cs.head? ≠ some '\uFEFF') :
    parseDocument text = Assembly.run ⟨[], none⟩ (Events.scan [] 0 cs) := by
  rw [parseDocument, ← ofText_of_head hmark, ← h, String.ofList_toList]

/-- The events of what was written for a plain tree, with other things around it, make that tree. -/
theorem run_scan_of_written {before markup after : List Char} {root : Element}
    (hplain : Plain root) (hbefore : Misc before) (hwritten : Written root markup)
    (hafter : Misc after) :
    Assembly.run ⟨[], none⟩ (Events.scan [] 0 (before ++ (markup ++ after))) = .ok root := by
  have hroot := reads_written hwritten hplain [] ⟨[], none⟩
  have hread := ((reads_misc hbefore none).append hroot).append (reads_misc hafter (some root))
  obtain ⟨position, hrun⟩ := hread 0 []
  simp only [List.append_assoc, List.append_nil] at hrun
  rw [hrun, Events.scan]
  rfl

/-- A document that was written for a plain tree, in whichever way, is read as that tree. -/
theorem parseDocument_of_document {root : Element} {text : String} (hplain : Plain root)
    (h : Document root text) : parseDocument text = .ok root := by
  cases h with
  | @intro before markup after hbefore hwritten hafter =>
    rw [parseDocument_of_toList String.toList_ofList (head_ne_of_written hbefore hwritten after)]
    exact run_scan_of_written hplain hbefore hwritten hafter

/-- A document with a qualifier, a declaration, a comment between two pieces of text, references and
an element without content. -/
theorem parseDocument_qualified :
    parseDocument "<o:a xmlns:o='u' b=\"&#49;\">x<!-- y -->&amp; <![CDATA[<]]><c/>\n</o:a>" =
      .ok ⟨"a", [("b", "1")], [⟨"c", [], [], ""⟩], "x& <"⟩ := by
  have hplain : Plain ⟨"a", [("b", "1")], [⟨"c", [], [], ""⟩], "x& <"⟩ := by
    refine .intro ⟨by decide, by decide, by decide⟩ (by decide) fun c hc => ?_
    rw [List.mem_singleton.mp hc]
    exact .intro ⟨by decide, by decide, by decide⟩ (by decide) (by simp)
  have ho : IsName ['o'] := by decide
  have hone : Numeral 10 '1'.toNat ['4', '9'] :=
    .more (.digit (.lower (by decide : 4 < 10))) (.lower (by decide : 9 < 10))
  have hdeclared : Setting ['x', 'm', 'l', 'n', 's', ':', 'o'] "u"
      [' ', 'x', 'm', 'l', 'n', 's', ':', 'o', '=', '\'', 'u', '\''] :=
    @Setting.intro _ _ [' '] [] [] ['u'] '\'' (by decide) (by decide) (by decide) (by decide)
      (by decide) (.char (by decide) (by decide) (by decide) (by decide) .nil)
  have hassigned : Setting ['b'] "1" [' ', 'b', '=', '"', '&', '#', '4', '9', ';', '"'] :=
    @Setting.intro _ _ [' '] [] [] ['&', '#', '4', '9', ';'] '"' (by decide) (by decide) (by decide)
      (by decide) (by decide) (.reference (.decimal (by decide) hone) .nil)
  have htag : Tag "a" [("b", "1")] ['o', ':', 'a'] (['o', ':', 'a'] ++
      ([' ', 'x', 'm', 'l', 'n', 's', ':', 'o', '=', '\'', 'u', '\''] ++
        ([' ', 'b', '=', '"', '&', '#', '4', '9', ';', '"'] ++ []) ++ [])) :=
    .intro (.qualified ho (by decide)) (.declaration (.named ho) hdeclared
      (.assigned .bare hassigned .nil)) (by decide) (by decide)
  have hc : Written ⟨"c", [], [], ""⟩ ['<', 'c', '/', '>'] :=
    .empty (@Tag.intro _ _ _ [] [] [] .bare .nil .nil (by decide))
  have hcontent : Content [⟨"c", [], [], ""⟩] ['x', '&', ' ', '<', '\n']
      ['x', '<', '!', '-', '-', ' ', 'y', ' ', '-', '-', '>', '&', 'a', 'm', 'p', ';', ' ', '<',
        '!', '[', 'C', 'D', 'A', 'T', 'A', '[', '<', ']', ']', '>', '<', 'c', '/', '>', '\n'] :=
    .char (by decide) (by decide) (.aside (@Aside.comment [' ', 'y', ' '] (by decide))
      (.reference .amp (.char (by decide) (by decide) (@Content.cdata ['<'] _ _ _ (by decide)
        (.element hc (.char (by decide) (by decide) .nil))))))
  have hpadded : Padded "x& <".toList ['x', '&', ' ', '<', '\n'] :=
    @Padded.intro _ [] ['\n'] (by simp) (List.forall_mem_singleton.mpr (by decide))
  have hwritten := @Written.full _ _ _ _ _ _ _ _ [] htag hcontent hpadded (by decide)
  exact parseDocument_of_document hplain (@Document.intro _ [] _ [] .nil hwritten .nil)

/-! ### Trees that have a document -/

namespace Grammar

theorem exists_numeral {base : Nat} (hbase : 1 < base) (n : Nat) : ∃ cs, Numeral base n cs := by
  induction n using Nat.strongRecOn with
  | ind n ih =>
    by_cases hn : n < base
    · exact ⟨_, .digit (.lower hn)⟩
    · obtain ⟨cs, hcs⟩ := ih (n / base) (Nat.div_lt_self (by omega) hbase)
      have hdigit : n % base < base := Nat.mod_lt n (by omega)
      have hmore := Numeral.more hcs (.lower hdigit)
      rw [Nat.div_add_mod] at hmore
      exact ⟨_, hmore⟩

/-- Every character but one can be written by its number. -/
theorem exists_reference {c : Char} (hc : c.toNat ≠ 0) : ∃ name, Reference c name := by
  obtain ⟨digits, hdigits⟩ := exists_numeral (by decide : 1 < 10) c.toNat
  exact ⟨_, .decimal hc hdigits⟩

theorem exists_value (quote : Char) {value : List Char} (h : ∀ c ∈ value, c.toNat ≠ 0) :
    ∃ cs, Value quote value cs := by
  induction value with
  | nil => exact ⟨_, .nil⟩
  | cons c value ih =>
    obtain ⟨name, hname⟩ := exists_reference (h c List.mem_cons_self)
    obtain ⟨cs, hcs⟩ := ih fun d hd => h d (List.mem_cons_of_mem c hd)
    exact ⟨_, .reference hname hcs⟩

theorem exists_attributes {attributes : List (String × String)}
    (h : ∀ a ∈ attributes, ∀ c ∈ a.2.toList, c.toNat ≠ 0) :
    ∃ cs, Attributes [] attributes cs := by
  induction attributes with
  | nil => exact ⟨_, .nil⟩
  | cons a attributes ih =>
    obtain ⟨name, value⟩ := a
    obtain ⟨written, hvalue⟩ := exists_value '"' (h (name, value) List.mem_cons_self)
    obtain ⟨cs, hcs⟩ := ih fun b hb => h b (List.mem_cons_of_mem _ hb)
    have hsetting : Setting name.toList value _ :=
      @Setting.intro _ _ [' '] [] [] written '"' (by decide) (by decide) (by decide) (by decide)
        (by decide) hvalue
    exact ⟨_, .assigned .bare hsetting hcs⟩

theorem exists_content {elements : List Element} (text : List Char)
    (h : ∀ e ∈ elements, ∃ markup, Written e markup) : ∃ cs, Content elements text cs := by
  induction elements with
  | nil =>
    induction text with
    | nil => exact ⟨_, .nil⟩
    | cons c text ih =>
      obtain ⟨cs, hcs⟩ := ih
      by_cases hopen : c = '<'
      · subst hopen
        exact ⟨_, .reference .lt hcs⟩
      by_cases hamp : c = '&'
      · subst hamp
        exact ⟨_, .reference .amp hcs⟩
      · exact ⟨_, .char hopen hamp hcs⟩
  | cons e elements ih =>
    obtain ⟨markup, hmarkup⟩ := h e List.mem_cons_self
    obtain ⟨cs, hcs⟩ := ih fun d hd => h d (List.mem_cons_of_mem e hd)
    exact ⟨_, .element hmarkup hcs⟩

theorem exists_written {e : Element} (hplain : Plain e)
    (h : ∀ d ∈ e :: e.descendants, ∀ a ∈ d.attributes, ∀ c ∈ a.2.toList, c.toNat ≠ 0) :
    ∃ cs, Written e cs := by
  induction hplain with
  | @intro e _ _ _ ih =>
    obtain ⟨name, attributes, children, text⟩ := e
    have hchildren : ∀ c ∈ children, ∃ markup, Written c markup := fun c hc =>
      ih c hc fun d hd => h d (List.mem_cons_of_mem _ (Element.mem_descendants_of_mem hc hd))
    obtain ⟨cs, hattributes⟩ := exists_attributes (h _ List.mem_cons_self)
    obtain ⟨content, hcontent⟩ := exists_content text.toList hchildren
    have htag : Tag name attributes name.toList _ :=
      @Tag.intro _ _ _ [] cs [] .bare hattributes .nil (by decide)
    have hpadded : Padded text.toList ([] ++ (text.toList ++ [])) := .intro (by simp) (by simp)
    rw [List.nil_append, List.append_nil] at hpadded
    exact ⟨_, @Written.full _ _ _ _ _ _ _ _ [] htag hcontent hpadded (by decide)⟩

end Grammar

/-- Every plain tree has a document that is read as that tree, if the character of number zero, which
nothing stands for, is in none of its values. -/
theorem exists_document {root : Element} (hplain : Plain root)
    (h : ∀ d ∈ root :: root.descendants, ∀ a ∈ d.attributes, ∀ c ∈ a.2.toList, c.toNat ≠ 0) :
    ∃ text, Document root text ∧ parseDocument text = .ok root := by
  obtain ⟨cs, hcs⟩ := exists_written hplain h
  refine ⟨_, .intro .nil hcs .nil, ?_⟩
  rw [parseDocument_of_toList String.toList_ofList (head_ne_of_written .nil hcs [])]
  exact run_scan_of_written hplain .nil hcs .nil

end EntityForge.Xml
