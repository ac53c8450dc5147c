import EntityForge.Proofs.Outcome
import EntityForge.Proofs.Toml.Quoted
import EntityForge.Toml.Reader

/-!
# Documents of single members

A document that has a member with a single value on each line, all with names of their own, is read
as just these members. Each line is followed on its way: it is cut into six tokens, these are taken
as the name and the value of a member, and the member is added behind those before it.
-/

namespace EntityForge.Toml

open Outcome (ok_bind)

/-! ### Members on lines of their own -/

/-- Whether a character can stand in a name without quotes. -/
def isPlain (c : Char) : Bool :=
  c.isAlphanum || c == '_' || c == '-'

/-- A text that can stand for itself. -/
structure PlainText (cs : List Char) : Prop where
  /-- It has a character. -/
  ne_nil : cs ≠ []
  /-- Its characters can stand in a name. -/
  plain : cs.all isPlain = true

/-- A value that is written as a single token. -/
inductive Single
  /-- A text. -/
  | text (s : String)
  /-- A truth value. -/
  | truth (b : Bool)

namespace Single

/-- The value. -/
def value : Single → Value
  | text s => .string s
  | truth b => .boolean b

/-- The value as it is written. -/
def written : Single → String
  | text s => quoted s
  | truth b => if b then "true" else "false"

/-- The quotes around the value, if it has any. -/
def quotes : Single → Option QuoteForm
  | text s => some (QuoteForm.ofText s.toList)
  | truth _ => none

/-- The kind of the token for the value. -/
def kind : Single → TokenKind
  | text s => .quoted (QuoteForm.ofText s.toList)
  | truth _ => .atom

end Single

/-- A member on a line of its own. -/
structure Entry where
  /-- The name. -/
  name : String
  /-- The value. -/
  value : Single
  /-- The name needs no quotes. -/
  plain : PlainText name.toList

/-- The line of a member. -/
def Entry.line (e : Entry) : String :=
  e.name ++ " = " ++ e.value.written ++ "\n"

/-- The document of members. -/
def document (es : List Entry) : String :=
  String.join (es.map Entry.line)

/-- A member whose line starts at a place in a document. -/
structure Placed extends Entry where
  /-- The number of characters before the line. -/
  start : Nat

namespace Placed

/-- Where the name stands. -/
def nameSpan (e : Placed) : Span :=
  ⟨e.start, e.start + e.name.length⟩

/-- Where the value stands. -/
def valueSpan (e : Placed) : Span :=
  ⟨e.start + e.name.length + 3, e.start + e.name.length + 3 + e.value.written.length⟩

/-- Where the line ends. -/
def stop (e : Placed) : Nat :=
  e.valueSpan.stop + 1

/-- The tokens of the line. -/
def tokens (e : Placed) : List Token :=
  let place := e.start + e.name.length
  [⟨.atom, e.nameSpan, e.name.toList⟩, ⟨.blanks, ⟨place, place + 1⟩, [' ']⟩,
    ⟨.sign '=', ⟨place + 1, place + 2⟩, ['=']⟩, ⟨.blanks, ⟨place + 2, place + 3⟩, [' ']⟩,
    ⟨e.value.kind, e.valueSpan, e.value.written.toList⟩,
    ⟨.lineEnd, ⟨e.valueSpan.stop, e.stop⟩, ['\n']⟩]

/-- The name as it is written. -/
def key (e : Placed) : Written :=
  ⟨e.nameSpan, none, e.name.toList⟩

/-- The value as it is written. -/
def written (e : Placed) : Written :=
  ⟨e.valueSpan, e.value.quotes, e.value.written.toList⟩

/-- The line as it is parsed. -/
def parsed (e : Placed) : Line :=
  .member [e.key] (.scalar e.written)

/-- The member that the line adds. -/
def member (e : Placed) : Key × (Span × Value) :=
  ((e.nameSpan, e.name), (e.valueSpan, e.value.value))

end Placed

/-- Members on lines one after another from a place on. -/
def placed (start : Nat) : List Entry → List Placed
  | [] => []
  | e :: es => { e with start } :: placed (Placed.stop { e with start }) es

theorem map_toEntry_placed (start : Nat) (es : List Entry) :
    (placed start es).map Placed.toEntry = es := by
  induction es generalizing start with
  | nil => rfl
  | cons e es ih => rw [placed, List.map_cons, ih]

/-! ### Tokens -/

theorem endsAtom_of_isPlain {c : Char} (h : isPlain c = true) : endsAtom c = false := by
  have hends : (signs ++ [' ', '\t', '#', '\r', '\n', '\'', '"']).all (!isPlain ·) = true := by
    decide
  have hc : c ∉ signs ++ [' ', '\t', '#', '\r', '\n', '\'', '"'] := fun hc => by
    have hplain := List.all_eq_true.mp hends c hc
    rw [h] at hplain
    cases hplain
  rw [List.mem_append, not_or] at hc
  rw [endsAtom, Bool.or_eq_false_iff, List.contains_eq_mem, List.contains_eq_mem,
    decide_eq_false_iff_not, decide_eq_false_iff_not]
  exact hc

/-- A plain text is cut off before a character that ends it. -/
theorem nextToken_plain {cs rest : List Char} (h : PlainText cs)
    (hrest : Text.Ends (fun c => !endsAtom c) rest) :
    nextToken (cs ++ rest) = (.atom, cs.length) := by
  have hends : ∀ c ∈ cs, endsAtom c = false := fun c hc =>
    endsAtom_of_isPlain (List.all_eq_true.mp h.plain c hc)
  have hrun : (cs ++ rest).takeWhile (!endsAtom ·) = cs :=
    Text.takeWhile_append_of_ends (fun c hc => by rw [hends c hc]; rfl) hrest
  obtain ⟨c, ds, rfl⟩ := List.exists_cons_of_ne_nil h.ne_nil
  have hc : endsAtom c = false := hends c List.mem_cons_self
  have hne : ∀ d, endsAtom d = true → c ≠ d := fun d hd heq => by
    rw [heq, hd] at hc
    cases hc
  have hsign : signs.contains c = false := (Bool.or_eq_false_iff.mp hc).1
  rw [List.cons_append] at hrun ⊢
  rw [nextToken, hsign, hrun]
  · simp [hne ' ' (by decide), hne '\t' (by decide)]
  all_goals first
    | exact hne _ (by decide)
    | exact fun _ heq => absurd heq (hne _ (by decide))

/-- A blank is cut off before a character that is none. -/
theorem nextToken_blank {rest : List Char}
    (hrest : Text.Ends (fun c => c == ' ' || c == '\t') rest) :
    nextToken ([' '] ++ rest) = (.blanks, 1) := by
  have hrun : ([' '] ++ rest).takeWhile (fun c => c == ' ' || c == '\t') = [' '] :=
    Text.takeWhile_append_of_ends (List.forall_mem_singleton.mpr (by decide)) hrest
  rw [List.singleton_append] at hrun ⊢
  rw [nextToken, hrun] <;> simp [signs]

namespace Single

theorem written_text (s : String) :
    (text s).written.toList = (QuoteForm.ofText s.toList).write s.toList := by
  simp [written, quoted]

theorem plainText_truth (b : Bool) : PlainText (truth b).written.toList := by
  cases b <;> exact ⟨by decide, by decide⟩

/-- A written value begins with a character that is no blank. -/
theorem exists_written (v : Single) :
    ∃ c cs, v.written.toList = c :: cs ∧ (c == ' ' || c == '\t') = false := by
  cases v with
  | text s =>
    rw [written_text]
    cases QuoteForm.ofText s.toList with
    | basic | longBasic => exact ⟨'"', _, rfl, by decide⟩
    | literal | longLiteral => exact ⟨'\'', _, rfl, by decide⟩
  | truth b => cases b <;> exact ⟨_, _, rfl, by decide⟩

/-- A written value is cut off at the end of its line. -/
theorem nextToken_written (v : Single) (rest : List Char) :
    nextToken (v.written.toList ++ '\n' :: rest) = (v.kind, v.written.toList.length) := by
  cases v with
  | text s =>
    rw [written_text]
    exact QuoteForm.nextToken_write (QuoteForm.admits_ofText s.toList) rest
  | truth b => exact nextToken_plain (plainText_truth b) (Text.ends_cons rest (by decide))

end Single

/-- The tokens that a text is cut into behind a number of characters, as long as each character is
taken for no more than one step. -/
def Cuts (start : Nat) (cs : List Char) (ts : List Token) : Prop :=
  ∀ n, cs.length ≤ n → tokensFrom n start cs = ts

theorem cuts_nil (start : Nat) : Cuts start [] [] := by
  intro n _
  cases n <;> rfl

/-- A token that is cut off stands in front of the tokens of the rest. -/
theorem Cuts.cons {start : Nat} {piece rest : List Char} {kind : TokenKind} {ts : List Token}
    (hrest : Cuts (start + piece.length) rest ts) (hpiece : piece ≠ [])
    (hnext : nextToken (piece ++ rest) = (kind, piece.length)) :
    Cuts start (piece ++ rest) (⟨kind, ⟨start, start + piece.length⟩, piece⟩ :: ts) := by
  intro n hn
  have hpos : 0 < piece.length := List.length_pos_iff.mpr hpiece
  rw [List.length_append] at hn
  obtain ⟨m, rfl⟩ := Nat.exists_eq_add_one.mpr (show 0 < n by omega)
  rw [tokensFrom]
  · rw [hnext]
    simp only [Nat.max_eq_right hpos, List.take_left, List.drop_left]
    rw [hrest m (by omega)]
  · simp [hpiece]

theorem Entry.toList_line (e : Entry) (rest : List Char) :
    e.line.toList ++ rest = e.name.toList ++
      ([' '] ++ (['='] ++ ([' '] ++ (e.value.written.toList ++ (['\n'] ++ rest))))) := by
  simp [line]

/-- The line of a member is cut into its tokens. -/
theorem Placed.cuts_line (e : Placed) {cs : List Char} {ts : List Token}
    (hrest : Cuts e.stop cs ts) : Cuts e.start (e.line.toList ++ cs) (e.tokens ++ ts) := by
  obtain ⟨c, ds, hwritten, hc⟩ := e.value.exists_written
  have hblank : nextToken ([' '] ++ (e.value.written.toList ++ (['\n'] ++ cs))) = (.blanks, 1) := by
    rw [hwritten]
    exact nextToken_blank (Text.ends_cons _ hc)
  have hne : e.value.written.toList ≠ [] := by simp [hwritten]
  rw [e.toList_line]
  simp only [tokens, stop, nameSpan, valueSpan, ← String.length_toList] at hrest ⊢
  refine .cons ?_ e.plain.ne_nil (nextToken_plain e.plain (Text.ends_cons _ (by decide)))
  refine .cons ?_ (List.cons_ne_nil _ _) (nextToken_blank (Text.ends_cons _ (by decide)))
  refine .cons ?_ (List.cons_ne_nil _ _) rfl
  refine .cons ?_ (List.cons_ne_nil _ _) hblank
  refine .cons ?_ hne (e.value.nextToken_written cs)
  exact .cons hrest (List.cons_ne_nil _ _) rfl

theorem toList_document_cons (e : Entry) (es : List Entry) :
    (document (e :: es)).toList = e.line.toList ++ (document es).toList := by
  rw [document, List.map_cons, String.join_cons, String.toList_append, document]

theorem cuts_document (es : List Entry) (start : Nat) :
    Cuts start (document es).toList ((placed start es).flatMap Placed.tokens) := by
  induction es generalizing start with
  | nil => exact cuts_nil start
  | cons e es ih =>
    rw [toList_document_cons]
    exact Placed.cuts_line { e with start } (ih _)

/-- A document of members does not begin with a mark of the order of bytes. -/
theorem head_document (es : List Entry) : ∀ c ∈ (document es).toList.head?, c ≠ '\ufeff' := by
  cases es with
  | nil => exact fun c hc => nomatch hc
  | cons e es =>
    obtain ⟨c, ds, hname⟩ := List.exists_cons_of_ne_nil e.plain.ne_nil
    rw [toList_document_cons, Entry.toList_line, hname]
    rintro d ⟨⟩ rfl
    have hmark : '\ufeff' ∈ e.name.toList := by
      rw [hname]
      exact List.mem_cons_self
    exact absurd (List.all_eq_true.mp e.plain.plain _ hmark) (by decide)

/-- A document of members is cut into the tokens of its lines. -/
theorem tokens_document (es : List Entry) :
    tokens (document es) = (placed 0 es).flatMap Placed.tokens := by
  have hhead := head_document es
  unfold tokens
  split
  · next rest heq =>
    rw [heq] at hhead
    exact absurd rfl (hhead '\ufeff' rfl)
  · exact cuts_document es 0 _ le_rfl

/-! ### Lines -/

section Scanning

open Scanning

variable {rest : List Token} {last length : Nat}

/-- The token of a value is taken as that value. -/
theorem value_single (bound depth : Nat) (v : Single) (span stop : Span) (cs : List Char) :
    (value (bound + 1) depth).run
        ⟨⟨v.kind, span, cs⟩ :: ⟨.lineEnd, stop, ['\n']⟩ :: rest, last, length⟩ =
      .ok (.scalar ⟨span, v.quotes, cs⟩,
        ⟨⟨.lineEnd, stop, ['\n']⟩ :: rest, span.stop, length⟩) := by
  cases v with
  | text s => cases depth <;> rfl
  | truth b =>
    -- a value without quotes is gathered from as many tokens as there are, here from one
    have hvalue : (value (bound + 1) depth).run
        ⟨⟨.atom, span, cs⟩ :: ⟨.lineEnd, stop, ['\n']⟩ :: rest, last, length⟩ =
        .ok (.scalar ⟨span, none, cs ++ []⟩,
          ⟨⟨.lineEnd, stop, ['\n']⟩ :: rest, span.stop, length⟩) := by
      cases depth <;> cases bound <;> rfl
    rw [List.append_nil] at hvalue
    exact hvalue

/-- The tokens of a line up to its end are taken as a member. -/
theorem member_tokens (bound : Nat) (e : Placed) :
    (member (bound + 1)).run ⟨e.tokens ++ rest, last, length⟩ =
      .ok (e.parsed, ⟨⟨.lineEnd, ⟨e.valueSpan.stop, e.stop⟩, ['\n']⟩ :: rest,
        e.valueSpan.stop, length⟩) := by
  have hname : (member (bound + 1)).run ⟨e.tokens ++ rest, last, length⟩ =
      (Line.member [e.key] <$> value (bound + 1) maxDepth).run
        ⟨e.tokens.drop 4 ++ rest, e.nameSpan.stop + 2, length⟩ := rfl
  rw [hname, StateT.run_map]
  exact congrArg _ (value_single ..)

/-- The tokens of a line are taken as a member, and the next lines follow. -/
theorem lines_tokens (bound n : Nat) (e : Placed) :
    (lines (bound + 1) (n + 1)).run ⟨e.tokens ++ rest, last, length⟩ =
      (fun (ls, s) => (e.parsed :: ls, s)) <$>
        (lines (bound + 1) n).run ⟨rest, e.valueSpan.stop, length⟩ := by
  have hline : (lines (bound + 1) (n + 1)).run ⟨e.tokens ++ rest, last, length⟩ =
      (do
        let line ← member (bound + 1)
        finishLine
        return line :: (← lines (bound + 1) n) : Scanning (List Line)).run
          ⟨e.tokens ++ rest, last, length⟩ := rfl
  rw [hline, StateT.run_bind, member_tokens]
  rfl

/-- The tokens of lines are taken as these lines. -/
theorem lines_flatMap_tokens (bound : Nat) {n : Nat} {es : List Placed} (hn : es.length < n) :
    ∃ s, (lines (bound + 1) n).run ⟨es.flatMap Placed.tokens, last, length⟩ =
      .ok (es.map Placed.parsed, s) := by
  induction es generalizing n last with
  | nil =>
    obtain ⟨m, rfl⟩ := Nat.exists_eq_add_one.mpr hn
    exact ⟨_, rfl⟩
  | cons e es ih =>
    obtain ⟨m, rfl⟩ := Nat.exists_eq_add_one.mpr (Nat.zero_lt_of_lt hn)
    obtain ⟨s, hs⟩ := ih (Nat.lt_of_succ_lt_succ hn)
    refine ⟨s, ?_⟩
    rw [List.flatMap_cons, lines_tokens, hs]
    rfl

end Scanning

theorem length_le_length_flatMap_tokens (es : List Placed) :
    es.length ≤ (es.flatMap Placed.tokens).length := by
  induction es with
  | nil => exact le_rfl
  | cons e es ih =>
    rw [List.flatMap_cons, List.length_append, List.length_cons]
    simp only [Placed.tokens, List.length_cons, List.length_nil]
    omega

/-- The lines of a document of members. -/
theorem linesOf_document (es : List Entry) :
    linesOf (document es) = .ok ((placed 0 es).map Placed.parsed) := by
  rw [linesOf, tokens_document]
  have hlength := Nat.lt_succ_of_le (length_le_length_flatMap_tokens (placed 0 es))
  generalize placed 0 es = ps at hlength ⊢
  obtain ⟨s, hs⟩ : ∃ s, (Scanning.lines ((ps.flatMap Placed.tokens).length + 1)
      ((ps.flatMap Placed.tokens).length + 1)).run
        ⟨ps.flatMap Placed.tokens, 0, (document es).length⟩ = .ok (ps.map Placed.parsed, s) :=
    lines_flatMap_tokens _ hlength
  simp only [hs]
  rfl

/-! ### Reading -/

theorem Placed.name_key (e : Placed) : e.key.name = .ok e.name := by
  have hplain : e.name.toList.dropWhile (fun c => c.isAlphanum || c == '_' || c == '-') = [] :=
    List.dropWhile_eq_nil_iff.mpr (List.all_eq_true.mp e.plain.plain)
  have hempty : e.name.toList.isEmpty = false := by
    rw [List.isEmpty_eq_false_iff]
    exact e.plain.ne_nil
  simp [Written.name, key, hplain, hempty, pure, Except.pure]

/-- A written value is read as the value. -/
theorem Placed.value_written (e : Placed) : e.written.value = .ok e.value.value := by
  rw [written]
  cases e.value with
  | text s =>
    rw [Single.written_text, Written.value, Single.quotes]
    dsimp only
    rw [QuoteForm.unescaped_write (QuoteForm.admits_ofText s.toList), String.ofList_toList]
    rfl
  | truth b => cases b <;> rfl

/-- A member of a new name comes behind the others. -/
theorem addDotted_single {key : Key} {v : Span × Value} {members : Members}
    (h : ∀ m ∈ members, m.1.2 ≠ key.2) :
    addDotted [key] v members = .ok (members ++ [(key, v)]) := by
  have hfind : find? key.2 members = none := by
    rw [find?, Option.map_eq_none_iff, List.find?_eq_none]
    exact fun m hm => by simpa using h m hm
  simp [addDotted, changeUnder, addMember, hfind, pure, Except.pure, bind, Except.bind]

/-- The line of a member of a new name adds the member. -/
theorem withLine_parsed {e : Placed} {d : Draft} (h : ∀ m ∈ d.current, m.1.2 ≠ e.name) :
    d.withLine e.parsed = .ok { d with current := d.current ++ [e.member] } := by
  have hpath : pathOf [e.key] = .ok [(e.nameSpan, e.name)] := by
    rw [pathOf, List.mapM_cons, List.mapM_nil, e.name_key]
    rfl
  have hvalue : (Node.scalar e.written).value = .ok (e.valueSpan, e.value.value) := by
    rw [Node.value, e.value_written]
    rfl
  rw [Placed.parsed, Draft.withLine, hpath, ok_bind, hvalue, ok_bind, Draft.withMember,
    addDotted_single h]
  rfl

/-- Lines of members of different names add them one behind another. -/
theorem foldlM_withLine {es : List Placed} {d : Draft}
    (hnames : (d.current.map (·.1.2) ++ es.map (·.name)).Nodup) :
    (es.map Placed.parsed).foldlM Draft.withLine d =
      .ok { d with current := d.current ++ es.map Placed.member } := by
  induction es generalizing d with
  | nil => simp [pure, Except.pure]
  | cons e es ih =>
    have hnew : ∀ m ∈ d.current, m.1.2 ≠ e.name := fun m hm heq =>
      (List.nodup_append.mp hnames).2.2 _ (List.mem_map_of_mem hm) _ List.mem_cons_self heq
    rw [List.map_cons, List.foldlM_cons, withLine_parsed hnew, ok_bind, ih]
    · simp
    · simpa [Placed.member] using hnames

/-- A document of members of different names is read as these members. -/
theorem read_document {es : List Entry} (hnames : (es.map Entry.name).Nodup) :
    read (document es) = .ok ((placed 0 es).map Placed.member) := by
  rw [← map_toEntry_placed 0 es, List.map_map] at hnames
  have hlines := foldlM_withLine (d := {}) hnames
  rw [read, linesOf_document]
  simp only [ok_bind, hlines]
  rfl

end EntityForge.Toml
