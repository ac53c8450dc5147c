import EntityForge.Proofs.Text.Runs
import EntityForge.Proofs.Toml.Escapes

/-!
# Quoted texts read back

A text that is written between quotes is cut off behind its closing quotes and stands for the text
again, whichever of the four forms was taken for it. Where three quotes are the end, up to two more
of them may stand side by side in the text, also right before the end, so that five quotes come
together there. The end is found all the same: the quotes that stand in front of each character are
counted along the text.
-/

namespace EntityForge.Toml

/-! ### Where texts between single and double quotes end -/

/-- The length of a text up to its closing quotes, as far as it passes over pieces. -/
structure PassesPieces (long : Bool) (len : List Char → Nat) : Prop where
  /-- A character that stands for itself is passed over. -/
  plain {c : Char} (rest : List Char) : c ≠ '"' → c ≠ '\\' → (c = '\n' → long = true) →
    len (c :: rest) = len rest + 1
  /-- So is the beginning of an escape, with its letter. -/
  escape {e : Char} (rest : List Char) : e ≠ ' ' ∧ e ≠ '\t' ∧ e ≠ '\n' ∧ e ≠ '\r' →
    len ('\\' :: e :: rest) = len rest + 2

theorem passesPieces_basicLength : PassesPieces false basicLength where
  plain {c} rest hquote hbackslash hline := by
    have hline : c ≠ '\n' := fun h => nomatch hline h
    simp [basicLength, hquote, hline, hbackslash]
  escape {e} rest he := by
    by_cases hquote : e = '"'
    · rw [hquote, basicLength]
    by_cases hbackslash : e = '\\'
    · rw [hbackslash, basicLength]
    simp [basicLength, hquote, hbackslash, he.2.2.1]

theorem passesPieces_longBasicLength : PassesPieces true longBasicLength where
  plain {c} rest hquote hbackslash hline := by
    simp [longBasicLength, hquote, hbackslash]
  escape {e} rest he := by
    by_cases hquote : e = '"'
    · rw [hquote, longBasicLength]
    by_cases hbackslash : e = '\\'
    · rw [hbackslash, longBasicLength]
    simp [longBasicLength, hquote, hbackslash]

/-- The digits of an escape stand for themselves. -/
theorem upperHexDigit_ne {n : Nat} (h : n < 16) :
    upperHexDigit n ≠ '"' ∧ upperHexDigit n ≠ '\\' ∧ upperHexDigit n ≠ '\n' := by
  interval_cases n <;> decide

/-- A piece is passed over as a whole. -/
theorem Stands.length_append {long : Bool} {c : Char} {piece : List Char} {len : List Char → Nat}
    (h : Stands long c piece) (hlen : PassesPieces long len) (rest : List Char) :
    len (piece ++ rest) = len rest + piece.length := by
  cases h with
  | plain hquote hbackslash _ hline => exact hlen.plain rest hquote hbackslash hline
  | letter e he => exact hlen.escape rest (not_blank_of_letterEscape? he)
  | code hcontrol =>
    have hlt := toNat_lt_of_isControl hcontrol
    have hdigit : ∀ n < 16, ∀ rest, len (upperHexDigit n :: rest) = len rest + 1 := by
      intro n hn rest
      have hn := upperHexDigit_ne hn
      exact hlen.plain rest hn.1 hn.2.1 fun h => absurd h hn.2.2
    have hzero : ∀ rest, len ('0' :: rest) = len rest + 1 := hdigit 0 (by omega)
    simp only [codeEscape, List.cons_append, List.nil_append, List.length_cons, List.length_nil]
    rw [hlen.escape _ (by decide), hzero, hzero, hdigit _ (by omega), hdigit _ (by omega)]

/-- A text between double quotes ends with the first quote that is not escaped. -/
theorem basicLength_escapedFrom (run : Nat) (cs rest : List Char) :
    basicLength (escapedFrom false run cs ++ '"' :: rest) =
      (escapedFrom false run cs).length + 1 := by
  induction cs generalizing run with
  | nil => simp [escapedFrom, basicLength]
  | cons c cs ih =>
    rcases escapedFrom_cons false run c cs with ⟨_, hlong, _⟩ | ⟨piece, hpiece, heq⟩
    · cases hlong
    · rw [heq, List.append_assoc, hpiece.length_append passesPieces_basicLength, ih,
        List.length_append]
      omega

/-- A text between single quotes ends with the first of them. -/
theorem literalLength_append {cs : List Char} (hcs : ∀ c ∈ cs, c ≠ '\'' ∧ c ≠ '\n')
    (rest : List Char) : literalLength (cs ++ '\'' :: rest) = cs.length + 1 := by
  induction cs with
  | nil => rfl
  | cons c cs ih =>
    have hc := hcs c List.mem_cons_self
    rw [List.cons_append, literalLength, if_neg hc.1, if_neg hc.2,
      ih fun d hd => hcs d (List.mem_cons_of_mem c hd), List.length_cons]

/-! ### Where texts between three quotes end -/

/-- The length of a text up to three quotes. -/
structure EndsInThree (quote : Char) (len : List Char → Nat) : Prop where
  /-- Three quotes are the end, with up to two more of them. -/
  three (rest : List Char) : len (quote :: quote :: quote :: rest) = 3 + moreQuotes quote rest
  /-- One quote is passed over. -/
  one {d : Char} (rest : List Char) : d ≠ quote → len (quote :: d :: rest) = len (d :: rest) + 1
  /-- So are two of them. -/
  two {d : Char} (rest : List Char) : d ≠ quote →
    len (quote :: quote :: d :: rest) = len (d :: rest) + 2

theorem endsInThree_longBasicLength : EndsInThree '"' longBasicLength where
  three rest := by rw [longBasicLength]
  one rest hd := by simp [longBasicLength, hd]
  two rest hd := by simp [longBasicLength, hd]

theorem endsInThree_longLiteralLength : EndsInThree '\'' longLiteralLength where
  three rest := by rw [longLiteralLength]
  one rest hd := by simp [longLiteralLength, hd]
  two rest hd := by simp [longLiteralLength, hd]

/-- A text behind a number of quotes in which no more than two of them stand side by side. -/
inductive Sparse (quote : Char) (len : List Char → Nat) : Nat → List Char → Prop
  /-- The end of the text. -/
  | nil {run : Nat} : run ≤ 2 → Sparse quote len run []
  /-- One more quote. -/
  | quote {run : Nat} {cs : List Char} : Sparse quote len (run + 1) cs →
    Sparse quote len run (quote :: cs)
  /-- Characters that are passed over and of which the first is no quote. -/
  | piece {run : Nat} {d : Char} {ds cs : List Char} : run ≤ 2 → d ≠ quote →
    (∀ rest, len (d :: ds ++ rest) = len rest + (d :: ds).length) → Sparse quote len 0 cs →
    Sparse quote len run (d :: ds ++ cs)

/-- Up to two quotes in front of another character are passed over. -/
theorem EndsInThree.replicate_append {quote : Char} {len : List Char → Nat}
    (hlen : EndsInThree quote len) {run : Nat} (hrun : run ≤ 2) {d : Char} (hd : d ≠ quote)
    (rest : List Char) : len (List.replicate run quote ++ d :: rest) = len (d :: rest) + run := by
  interval_cases run
  · rfl
  · exact hlen.one rest hd
  · exact hlen.two rest hd

/-- Up to two quotes behind a text are counted with its closing quotes. -/
theorem moreQuotes_replicate_append {quote : Char} {run : Nat} (hrun : run ≤ 2) {rest : List Char}
    (hrest : Text.Ends (· == quote) rest) :
    moreQuotes quote (List.replicate run quote ++ rest) = run := by
  cases rest with
  | nil => interval_cases run <;> simp [moreQuotes, List.replicate]
  | cons c rest =>
    have hc : (c == quote) = false := hrest c rfl
    interval_cases run <;> simp [moreQuotes, List.replicate, hc]

/-- A text between three quotes ends with its closing quotes, also where quotes stand before
them. -/
theorem Sparse.length_append {quote : Char} {len : List Char → Nat} {run : Nat} {cs : List Char}
    (h : Sparse quote len run cs) (hlen : EndsInThree quote len) {rest : List Char}
    (hrest : Text.Ends (· == quote) rest) :
    len (List.replicate run quote ++ (cs ++ quote :: quote :: quote :: rest)) =
      run + cs.length + 3 := by
  induction h with
  | @nil run hrun =>
    -- The quotes at the end of the text and those behind it are taken in the other order.
    have hswap : List.replicate run quote ++ quote :: quote :: quote :: rest =
        quote :: quote :: quote :: (List.replicate run quote ++ rest) := by
      interval_cases run <;> rfl
    rw [List.nil_append, hswap, hlen.three, moreQuotes_replicate_append hrun hrest]
    simp [Nat.add_comm]
  | @quote run cs _ ih =>
    rw [List.replicate_succ', List.append_assoc] at ih
    rw [List.cons_append, ← List.singleton_append, ih, List.length_cons]
    omega
  | @piece run d ds cs hrun hd hpass _ ih =>
    rw [List.replicate_zero, List.nil_append] at ih
    rw [List.append_assoc, List.cons_append, hlen.replicate_append hrun hd, ← List.cons_append,
      hpass, ih, List.length_append]
    omega

theorem sparse_escapedFrom {run : Nat} (hrun : run ≤ 2) (cs : List Char) :
    Sparse '"' longBasicLength run (escapedFrom true run cs) := by
  induction cs generalizing run with
  | nil => exact .nil hrun
  | cons c cs ih =>
    rcases escapedFrom_cons true run c cs with ⟨_, _, hlt, heq⟩ | ⟨piece, hpiece, heq⟩
    · rw [heq]
      exact .quote (ih hlt)
    · obtain ⟨d, ds, rfl, hd⟩ := hpiece.exists_cons
      rw [heq]
      exact .piece hrun hd (hpiece.length_append passesPieces_longBasicLength) (ih (Nat.zero_le 2))

/-- A run is not longer than the longest one. -/
theorem le_longestRunFrom (c : Char) (run : Nat) (cs : List Char) :
    run ≤ longestRunFrom c run cs := by
  induction cs generalizing run with
  | nil => exact le_rfl
  | cons d ds ih =>
    rw [longestRunFrom]
    split
    · exact (Nat.le_succ run).trans (ih (run + 1))
    · exact le_max_left ..

theorem longLiteralLength_cons {d : Char} (hd : d ≠ '\'') (rest : List Char) :
    longLiteralLength (d :: rest) = longLiteralLength rest + 1 := by
  simp [longLiteralLength, hd]

theorem sparse_of_longestRunFrom_le {run : Nat} {cs : List Char}
    (h : longestRunFrom '\'' run cs ≤ 2) : Sparse '\'' longLiteralLength run cs := by
  induction cs generalizing run with
  | nil => exact .nil h
  | cons d ds ih =>
    rw [longestRunFrom] at h
    split_ifs at h with hquote
    · rw [hquote]
      exact .quote (ih h)
    · have hds := ih ((le_max_right ..).trans h)
      rw [← List.singleton_append]
      exact .piece ((le_max_left ..).trans h) hquote (longLiteralLength_cons hquote) hds

/-- A character that has no run is not in the text. -/
theorem not_mem_of_longestRun_eq_zero {c : Char} {cs : List Char} (h : longestRun c cs = 0) :
    c ∉ cs := by
  rw [longestRun] at h
  induction cs with
  | nil => exact List.not_mem_nil
  | cons d ds ih =>
    rw [longestRunFrom] at h
    split_ifs at h with hd
    · exact absurd (le_longestRunFrom c (0 + 1) ds) (by omega)
    · rw [Nat.max_eq_zero_iff] at h
      exact List.not_mem_cons_of_ne_of_not_mem (fun hc => hd hc.symm) (ih h.2)

/-! ### Forms that a text can take -/

/-- Whether what a form writes for a text stands for the text. -/
def QuoteForm.Admits : QuoteForm → List Char → Prop
  | basic, _ | longBasic, _ => True
  | literal, cs => ∀ c ∈ cs, isControl c = false ∧ c ≠ '\'' ∧ c ≠ '\n'
  | longLiteral, cs => (∀ c ∈ cs, isControl c = false) ∧ longestRun '\'' cs ≤ 2

/-- The form that is taken for a text admits it. -/
theorem QuoteForm.admits_ofText (cs : List Char) : (QuoteForm.ofText cs).Admits cs := by
  simp only [QuoteForm.ofText]
  split_ifs with _ hliteral _ hlong <;> try trivial
  · simp only [Bool.and_eq_true, Bool.not_eq_true', List.any_eq_false, decide_eq_true_eq,
      List.contains_eq_mem, decide_eq_false_iff_not] at hliteral
    obtain ⟨⟨hcontrols, hquote⟩, hlines⟩ := hliteral
    refine fun c hc => ⟨Bool.eq_false_iff.mpr (hcontrols c hc), ?_, ?_⟩
    · rintro rfl
      exact not_mem_of_longestRun_eq_zero hquote hc
    · rintro rfl
      exact hlines hc
  · simp only [Bool.and_eq_true, Bool.not_eq_true', List.any_eq_false, decide_eq_true_eq] at hlong
    exact ⟨fun c hc => Bool.eq_false_iff.mpr (hlong.1 c hc), hlong.2⟩

/-! ### Quoted texts -/

/-- The end of a line that stands in front of a text of several lines. -/
def QuoteForm.lead (form : QuoteForm) (cs : List Char) : List Char :=
  if form.isLong && cs.contains '\n' then ['\n'] else []

/-- What stands for a text between its quotes. -/
def QuoteForm.body (form : QuoteForm) (cs : List Char) : List Char :=
  if form.hasEscapes then escapedFrom form.isLong 0 cs else cs

theorem QuoteForm.write_eq (form : QuoteForm) (cs : List Char) :
    form.write cs = form.quotes ++ (form.lead cs ++ (form.body cs ++ form.quotes)) := by
  cases form <;> simp [write, quotes, lead, body, isLong, hasEscapes]

theorem dropLineEnd_of_head {cs : List Char} (h : ∀ c ∈ cs.head?, c ≠ '\n' ∧ c ≠ '\r') :
    dropLineEnd cs = cs := by
  unfold dropLineEnd
  split
  · exact absurd rfl (h '\n' rfl).1
  · exact absurd rfl (h '\r' rfl).2
  · rfl

/-- The piece for a character that ends no line begins with none that does. -/
theorem Stands.head_ne {long : Bool} {c : Char} {piece : List Char} (h : Stands long c piece)
    (hline : c ≠ '\n') : ∀ d ∈ piece.head?, d ≠ '\n' ∧ d ≠ '\r' := by
  cases h with
  | plain _ _ hcontrol =>
    rintro d ⟨⟩
    exact ⟨hline, fun h => by rw [h] at hcontrol; cases hcontrol⟩
  | letter e =>
    rintro d ⟨⟩
    decide
  | code =>
    rintro d ⟨⟩
    decide

/-- A text of one line begins with no end of a line where it is written between three quotes. -/
theorem QuoteForm.head_body_ne {form : QuoteForm} {cs : List Char} (h : form.Admits cs)
    (hlong : form.isLong = true) (hlines : '\n' ∉ cs) :
    ∀ c ∈ (form.body cs ++ form.quotes).head?, c ≠ '\n' ∧ c ≠ '\r' := by
  cases cs with
  | nil =>
    cases form with
    | basic | literal => cases hlong
    | longBasic | longLiteral =>
      intro c hc
      rw [← Option.some.inj hc]
      decide
  | cons c cs =>
    have hc : c ≠ '\n' := fun hc => hlines (hc ▸ List.mem_cons_self)
    cases form with
    | basic | literal => cases hlong
    | longBasic =>
      rcases escapedFrom_cons true 0 c cs with ⟨_, _, _, heq⟩ | ⟨piece, hpiece, heq⟩
      · have hbody : body longBasic (c :: cs) = _ := heq
        rw [hbody]
        rintro d ⟨⟩
        decide
      · have hhead := hpiece.head_ne hc
        obtain ⟨d, ds, rfl, _⟩ := hpiece.exists_cons
        have hbody : body longBasic (c :: cs) = _ := heq
        rw [hbody]
        exact hhead
    | longLiteral =>
      rintro d ⟨⟩
      refine ⟨hc, fun hreturn => ?_⟩
      have hcontrol := h.1 c List.mem_cons_self
      rw [hreturn] at hcontrol
      cases hcontrol

/-- The end of a line in front of a text is told from the text itself. -/
theorem QuoteForm.dropLineEnd_lead {form : QuoteForm} {cs : List Char} (h : form.Admits cs)
    (hlong : form.isLong = true) :
    dropLineEnd (form.lead cs ++ (form.body cs ++ form.quotes)) = form.body cs ++ form.quotes := by
  by_cases hlines : '\n' ∈ cs
  · simp [lead, hlong, hlines, dropLineEnd]
  · have hlead : form.lead cs = [] := by simp [lead, hlines]
    rw [hlead]
    exact dropLineEnd_of_head (head_body_ne h hlong hlines)

/-- A text between double quotes does not get shorter by its escapes. -/
theorem length_le_length_escapedFrom (long : Bool) (run : Nat) (cs : List Char) :
    cs.length ≤ (escapedFrom long run cs).length := by
  induction cs generalizing run with
  | nil => exact Nat.zero_le _
  | cons c cs ih =>
    rcases escapedFrom_cons long run c cs with ⟨_, _, _, heq⟩ | ⟨piece, hpiece, heq⟩
    · rw [heq]
      exact Nat.succ_le_succ (ih (run + 1))
    · obtain ⟨d, ds, rfl, _⟩ := hpiece.exists_cons
      have := ih 0
      rw [heq, List.length_append, List.length_cons, List.length_cons]
      omega

theorem QuoteForm.unescapedFrom_body {form : QuoteForm} {cs : List Char} (h : form.Admits cs)
    (stop : Nat) : unescapedFrom form stop (form.body cs).length (form.body cs) = .ok cs := by
  cases form with
  | basic | longBasic =>
    exact unescapedFrom_escapedFrom rfl 0 (length_le_length_escapedFrom _ 0 cs)
  | literal =>
    exact unescapedFrom_self rfl (fun c hc => ⟨(h c hc).1, fun hline => absurd hline (h c hc).2.2⟩)
      le_rfl
  | longLiteral => exact unescapedFrom_self rfl (fun c hc => ⟨h.1 c hc, fun _ => rfl⟩) le_rfl

/-- A quoted text stands for the text. -/
theorem QuoteForm.unescaped_write {form : QuoteForm} {cs : List Char} (h : form.Admits cs)
    (span : Span) (quotes : Option QuoteForm) :
    unescaped form ⟨span, quotes, form.write cs⟩ = .ok (String.ofList cs) := by
  have hinside : (if form.isLong then dropLineEnd ((form.write cs).drop form.quotes.length)
      else (form.write cs).drop form.quotes.length) = form.body cs ++ form.quotes := by
    rw [form.write_eq cs, List.drop_left]
    by_cases hlong : form.isLong = true
    · rw [if_pos hlong, dropLineEnd_lead h hlong]
    · rw [if_neg hlong, lead, Bool.eq_false_iff.mpr hlong]
      rfl
  have hsuffix : form.quotes.isSuffixOf (form.body cs ++ form.quotes) = true :=
    List.isSuffixOf_iff_suffix.mpr (List.suffix_append ..)
  have hcontent : (form.body cs ++ form.quotes).take
      ((form.body cs ++ form.quotes).length - form.quotes.length) = form.body cs := by
    rw [List.length_append, Nat.add_sub_cancel, List.take_left]
  simp only [unescaped, hinside, hsuffix, hcontent, unescapedFrom_body h]
  rfl

/-- One quote in front of a text that does not begin with it is not taken for three of them. -/
theorem ne_two_quotes {quote : Char} {cs rest : List Char} (hcs : Text.Ends (· == quote) cs)
    (hrest : Text.Ends (· == quote) rest) (ds : List Char) :
    cs ++ quote :: rest ≠ quote :: quote :: ds := by
  intro heq
  cases cs with
  | nil =>
    rw [(List.cons.inj heq).2] at hrest
    simpa using hrest quote rfl
  | cons c cs =>
    rw [(List.cons.inj heq).1] at hcs
    simpa using hcs quote rfl

/-- A text between double quotes does not begin with one. -/
theorem ends_escapedFrom (cs : List Char) : Text.Ends (· == '"') (escapedFrom false 0 cs) := by
  cases cs with
  | nil => exact Text.ends_nil _
  | cons c cs =>
    rcases escapedFrom_cons false 0 c cs with ⟨_, hlong, _⟩ | ⟨piece, hpiece, heq⟩
    · cases hlong
    · obtain ⟨d, ds, rfl, hd⟩ := hpiece.exists_cons
      rw [heq]
      exact Text.ends_cons _ (beq_false_of_ne hd)

theorem QuoteForm.length_lead_append {len : List Char → Nat}
    (hlen : ∀ rest, len ('\n' :: rest) = len rest + 1) (form : QuoteForm) (cs rest : List Char) :
    len (form.lead cs ++ rest) = len rest + (form.lead cs).length := by
  unfold lead
  split
  · exact hlen rest
  · rfl

/-- A quoted text is cut off behind its closing quotes. -/
theorem QuoteForm.nextToken_write {form : QuoteForm} {cs : List Char} (h : form.Admits cs)
    (rest : List Char) :
    nextToken (form.write cs ++ '\n' :: rest) = (.quoted form, (form.write cs).length) := by
  have hend (quote : Char) (hquote : '\n' ≠ quote) : Text.Ends (· == quote) ('\n' :: rest) :=
    Text.ends_cons rest (beq_false_of_ne hquote)
  cases form with
  | basic =>
    have htext : basic.write cs ++ '\n' :: rest =
        '"' :: (escapedFrom false 0 cs ++ '"' :: '\n' :: rest) := by simp [write]
    rw [htext, nextToken, basicLength_escapedFrom]
    · simp [write, Nat.add_comm]
    · exact ne_two_quotes (ends_escapedFrom cs) (hend '"' (by decide))
  | literal =>
    have htext : literal.write cs ++ '\n' :: rest = '\'' :: (cs ++ '\'' :: '\n' :: rest) := by
      simp [write]
    have hcs : Text.Ends (· == '\'') cs := fun c hc =>
      beq_false_of_ne (h c (List.mem_of_mem_head? hc)).2.1
    rw [htext, nextToken, literalLength_append fun c hc => (h c hc).2]
    · simp [write, Nat.add_comm]
    · exact ne_two_quotes hcs (hend '\'' (by decide))
  | longBasic =>
    have htext : longBasic.write cs ++ '\n' :: rest =
        '"' :: '"' :: '"' :: (longBasic.lead cs ++
          (escapedFrom true 0 cs ++ '"' :: '"' :: '"' :: '\n' :: rest)) := by
      simp [write_eq, quotes, body, hasEscapes, isLong]
    have hlead := length_lead_append
      (fun rest => passesPieces_longBasicLength.plain rest (by decide) (by decide) fun _ => rfl)
      longBasic cs
    have hbody := (sparse_escapedFrom (Nat.zero_le 2) cs).length_append endsInThree_longBasicLength
      (hend '"' (by decide))
    rw [List.replicate_zero, List.nil_append] at hbody
    rw [htext, nextToken, hlead, hbody]
    simp [write_eq, quotes, body, hasEscapes, isLong]
    omega
  | longLiteral =>
    have htext : longLiteral.write cs ++ '\n' :: rest =
        '\'' :: '\'' :: '\'' :: (longLiteral.lead cs ++
          (cs ++ '\'' :: '\'' :: '\'' :: '\n' :: rest)) := by
      simp [write_eq, quotes, body, hasEscapes]
    have hlead := length_lead_append (longLiteralLength_cons (by decide)) longLiteral cs
    have hbody := (sparse_of_longestRunFrom_le h.2).length_append endsInThree_longLiteralLength
      (hend '\'' (by decide))
    rw [List.replicate_zero, List.nil_append] at hbody
    rw [htext, nextToken, hlead, hbody]
    simp [write_eq, quotes, body, hasEscapes]
    omega

end EntityForge.Toml
