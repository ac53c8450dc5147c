import EntityForge.Proofs.Xml.Tags
import EntityForge.Xml.Event

/-!
# Cutting markup off a text

The markup that starts at an angle bracket is read up to its end: a tag up to the first closing
bracket outside quotes, a comment, CDATA section or processing instruction up to the first place
where the characters that end it stand. Markup that was written is cut off in full and no further.
-/

namespace EntityForge.Xml

open Grammar
open Text (dropWhile_append_cons)

/-! ### Tags -/

/-- A text that a tag is read over, no quote being open before it or after it. -/
def Passes (cs : List Char) : Prop :=
  ∀ seen rest, cutTag none seen (cs ++ rest) = cutTag none (cs.reverse ++ seen) rest

theorem Passes.nil : Passes [] := fun _ _ => rfl

theorem Passes.append {xs ys : List Char} (hx : Passes xs) (hy : Passes ys) :
    Passes (xs ++ ys) := by
  intro seen rest
  rw [List.append_assoc, hx, hy, List.reverse_append, List.append_assoc]

theorem passes_cons {c : Char} {cs : List Char} (hend : c ≠ '>') (hquote : ¬ IsQuote c)
    (h : Passes cs) : Passes (c :: cs) := by
  unfold IsQuote at hquote
  intro seen rest
  rw [List.cons_append, cutTag, if_neg hend, if_neg hquote, h, List.reverse_cons,
    List.append_assoc, List.singleton_append]

/-- Neither brackets nor quotes. -/
theorem passes_of_plain {cs : List Char} (h : ∀ c ∈ cs, c ≠ '>' ∧ ¬ IsQuote c) : Passes cs := by
  induction cs with
  | nil => exact Passes.nil
  | cons c cs ih =>
    obtain ⟨hend, hquote⟩ := h c List.mem_cons_self
    exact passes_cons hend hquote (ih fun d hd => h d (List.mem_cons_of_mem c hd))

theorem passes_space {cs : List Char} (h : Space cs) : Passes cs := by
  refine passes_of_plain fun c hc => ?_
  rcases h c hc with rfl | rfl | rfl | rfl <;> decide

theorem passes_key {cs : List Char} (h : IsKey cs) : Passes cs := by
  refine passes_of_plain fun c hc => ⟨?_, ?_⟩
  · exact ne_of_mem_key h hc (by decide) (by decide)
  · rintro (hquote | hquote)
    · exact ne_of_mem_key h hc (by decide) (by decide) hquote
    · exact ne_of_mem_key h hc (by decide) (by decide) hquote

/-- Inside quotes everything is read over up to the closing one. -/
theorem cutTag_quoted {quote : Char} {cs : List Char} (seen rest : List Char)
    (h : ∀ d ∈ cs, d ≠ quote) :
    cutTag (some quote) seen (cs ++ quote :: rest) =
      cutTag none (quote :: (cs.reverse ++ seen)) rest := by
  induction cs generalizing seen with
  | nil =>
    rw [List.nil_append, cutTag, if_pos rfl]
    rfl
  | cons c cs ih =>
    rw [List.cons_append, cutTag, if_neg (h c List.mem_cons_self),
      ih (c :: seen) fun d hd => h d (List.mem_cons_of_mem c hd),
      List.reverse_cons, List.append_assoc, List.singleton_append]

theorem passes_quoted {quote : Char} {cs : List Char} (hquote : IsQuote quote)
    (h : ∀ d ∈ cs, d ≠ quote) : Passes (quote :: (cs ++ [quote])) := by
  have hend : quote ≠ '>' := by rcases hquote with rfl | rfl <;> decide
  unfold IsQuote at hquote
  intro seen rest
  rw [List.cons_append, List.append_assoc, List.singleton_append, cutTag,
    if_neg hend, if_pos hquote, cutTag_quoted _ _ h]
  simp

theorem passes_setting {key setting : List Char} {value : String} (hkey : IsKey key)
    (h : Setting key value setting) : Passes setting := by
  cases h with
  | intro _ hspace hbefore hafter hquote hvalue =>
    have hquoted := passes_quoted hquote (ne_quote_of_mem_value hquote hvalue)
    have hassigned := passes_cons (c := '=') (by decide) (by decide)
      ((passes_space hafter).append hquoted)
    exact (passes_space hspace).append
      ((passes_key hkey).append ((passes_space hbefore).append hassigned))

theorem passes_attributes {declared : List (List Char)} {attributes : List (String × String)}
    {cs : List Char} (h : Attributes declared attributes cs)
    (hnames : ∀ a ∈ attributes, IsName a.1.toList) : Passes cs := by
  induction h with
  | nil => exact Passes.nil
  | assigned hkey hsetting _ ih =>
    have hname := hnames _ List.mem_cons_self
    exact (passes_setting (isKey_of_qualified hname hkey) hsetting).append
      (ih fun a ha => hnames a (List.mem_cons_of_mem _ ha))
  | declaration hkey hsetting _ ih =>
    exact (passes_setting (isKey_of_declarationKey hkey) hsetting).append (ih hnames)

theorem passes_tag {name : String} {attributes : List (String × String)} {key tag : List Char}
    (hname : IsName name.toList) (hnames : ∀ a ∈ attributes, IsName a.1.toList)
    (h : Tag name attributes key tag) : Passes tag := by
  cases h with
  | intro hkey hattributes _ hspace =>
    exact (passes_key (isKey_of_qualified hname hkey)).append
      ((passes_attributes hattributes hnames).append (passes_space hspace))

/-- A tag ends at the bracket behind a text that it is read over. -/
theorem cutTag_of_passes {cs : List Char} (rest : List Char) (h : Passes cs) :
    cutTag none [] (cs ++ '>' :: rest) = some (cs, rest) := by
  rw [h, cutTag]
  simp

/-! ### Kinds of tags -/

/-- Attributes end in a quote. -/
theorem getLast?_ne_of_attributes {declared : List (List Char)}
    {attributes : List (String × String)} {cs : List Char}
    (h : Attributes declared attributes cs) : cs.getLast? ≠ some '/' := by
  have hsetting : ∀ {key value setting}, Setting key value setting →
      setting.getLast? ≠ some '/' := by
    rintro key value setting ⟨-, -, -, -, hquote, -⟩
    rcases hquote with rfl | rfl <;> simp [List.getLast?_append, List.getLast?_cons]
  induction h with
  | nil => simp
  | assigned _ hset _ ih | declaration _ hset _ ih =>
    rw [List.getLast?_append, ne_eq, Option.or_eq_some_iff, not_or]
    exact ⟨ih, fun hlast => hsetting hset hlast.2⟩

/-- A start tag does not end in a slash. -/
theorem getLast?_ne_of_tag {name : String} {attributes : List (String × String)}
    {key tag : List Char} (hname : IsName name.toList) (h : Tag name attributes key tag) :
    tag.getLast? ≠ some '/' := by
  cases h with
  | @intro declared cs space hkey hattributes _ hspace =>
    intro hlast
    rw [List.getLast?_append, List.getLast?_append, Option.or_eq_some_iff,
      Option.or_eq_some_iff] at hlast
    rcases hlast with (hlast | ⟨-, hlast⟩) | ⟨-, hlast⟩
    · exact absurd (isSpace_of_space hspace _ (List.mem_of_getLast? hlast)) (by decide)
    · exact getLast?_ne_of_attributes hattributes hlast
    · exact ne_of_mem_key (isKey_of_qualified hname hkey) (List.mem_of_getLast? hlast) (by decide)
        (by decide) rfl

/-- A tag begins with its name. -/
theorem exists_cons_of_tag {name : String} {attributes : List (String × String)}
    {key tag : List Char} (hname : IsName name.toList) (h : Tag name attributes key tag) :
    ∃ k rest, tag = k :: rest ∧ startsName k = true := by
  cases h with
  | intro hkey _ _ _ =>
    have hkey' := isKey_of_qualified hname hkey
    cases key with
    | nil => exact hkey'.elim
    | cons k ks => exact ⟨k, _, rfl, hkey'.1⟩

theorem tagMarkup_start {k : Char} {cs : List Char} (hk : startsName k = true)
    (hlast : (k :: cs).getLast? ≠ some '/') : tagMarkup (k :: cs) = .start (k :: cs) := by
  have hslash := ne_of_inName (d := '/') (inName_of_startsName hk) (by decide)
  unfold tagMarkup
  split
  · next heq =>
    cases heq
    exact absurd rfl hslash
  · rw [if_neg hlast]

theorem tagMarkup_empty {k : Char} {cs : List Char} (hk : startsName k = true) :
    tagMarkup (k :: cs ++ ['/']) = .empty (k :: cs) := by
  have hslash := ne_of_inName (d := '/') (inName_of_startsName hk) (by decide)
  unfold tagMarkup
  split
  · next heq =>
    cases heq
    exact absurd rfl hslash
  · rw [if_pos (List.getLast?_concat ..), List.dropLast_concat]

/-- White space behind the name in a closing tag is passed over. -/
theorem closeName_of_key {key space : List Char} (hkey : IsKey key) (hspace : Space space) :
    closeName (key ++ space) = key := by
  have hall : ∀ c ∈ space.reverse, isSpace c = true := fun c hc =>
    isSpace_of_space hspace c (List.mem_reverse.mp hc)
  obtain ⟨c, cs, hrev⟩ : ∃ c cs, key.reverse = c :: cs := by
    cases hrev : key.reverse with
    | nil =>
      rw [List.reverse_eq_nil_iff.mp hrev] at hkey
      exact hkey.elim
    | cons c cs => exact ⟨c, cs, rfl⟩
  have hc : isSpace c = false :=
    isSpace_of_mem_key hkey (List.mem_reverse.mp (by rw [hrev]; exact List.mem_cons_self))
  rw [closeName, List.reverse_append, hrev, dropWhile_append_cons cs hall hc]
  simp only
  rw [← hrev, List.reverse_reverse]

/-! ### Other markup -/

/-- Reading stops at the first character where it may. -/
theorem cutAt_append {ends : List Char → Bool} {cs : List Char} {c : Char}
    (seen rest : List Char)
    (hinside : ∀ before d after, cs = before ++ d :: after →
      ends (d :: (before.reverse ++ seen)) = false)
    (hend : ends (c :: (cs.reverse ++ seen)) = true) :
    cutAt ends seen (cs ++ c :: rest) = some (seen.reverse ++ cs, rest) := by
  induction cs generalizing seen with
  | nil =>
    rw [List.reverse_nil, List.nil_append] at hend
    rw [List.nil_append, cutAt, if_pos hend, List.append_nil]
  | cons d ds ih =>
    have hd : ends (d :: seen) = false := hinside [] d ds rfl
    rw [List.cons_append, cutAt, hd, if_neg Bool.false_ne_true, ih]
    · simp
    · intro before x after hsplit
      have h := hinside (d :: before) x after (by rw [hsplit]; rfl)
      simpa using h
    · simpa using hend

/-- What ends in a character that a text behind does not have stands in front of that text. -/
theorem infix_of_infix_append {pattern cs tail : List Char} {c : Char}
    (h : pattern ++ [c] <:+: cs ++ tail) (hc : c ∉ tail) : pattern ++ [c] <:+: cs := by
  obtain ⟨before, after, heq⟩ := h
  rcases List.append_eq_append_iff.mp heq with ⟨middle, hcs, -⟩ | ⟨middle, hleft, htail⟩
  · exact ⟨before, middle, hcs.symm⟩
  · -- the pattern would reach into the tail, and its last character with it
    rcases List.eq_nil_or_concat middle with rfl | ⟨init, last, rfl⟩
    · rw [List.append_nil] at hleft
      exact ⟨before, [], by rw [List.append_nil, hleft]⟩
    · have hlast : c = last := by
        have h := congrArg List.getLast? hleft
        rw [List.concat_eq_append, ← List.append_assoc, ← List.append_assoc, List.getLast?_concat,
          List.getLast?_concat] at h
        exact Option.some.inj h
      refine absurd ?_ hc
      rw [htail, hlast]
      simp

/-- What begins with a character that a text in front does not have stands behind that text. -/
theorem infix_of_append_infix {pattern head cs : List Char} {c : Char}
    (h : c :: pattern <:+: head ++ cs) (hc : c ∉ head) : c :: pattern <:+: cs := by
  have hrev : pattern.reverse ++ [c] <:+: cs.reverse ++ head.reverse := by
    rw [← List.reverse_cons, ← List.reverse_append]
    exact List.reverse_infix.mpr h
  have hcs := infix_of_infix_append hrev fun hmem => hc (List.mem_reverse.mp hmem)
  rw [← List.reverse_cons] at hcs
  exact List.reverse_infix.mp hcs

/-- What has been read ends in a pattern. -/
theorem eq_append_of_reverse (pattern : List Char) {before : List Char} {c d : Char}
    (h : (pattern ++ [c]).reverse <+: d :: before.reverse) :
    d = c ∧ ∃ init, before = init ++ pattern := by
  obtain ⟨rest, heq⟩ := h
  rw [List.reverse_append, List.reverse_singleton, List.singleton_append, List.cons_append] at heq
  obtain ⟨rfl, hrev⟩ := List.cons.inj heq
  refine ⟨rfl, rest.reverse, ?_⟩
  rw [← List.reverse_reverse before, ← hrev, List.reverse_append, List.reverse_reverse]

/-- Reading up to a pattern goes on to the first place where the pattern stands. -/
theorem cutAt_of_infix {ends : List Char → Bool} {cs : List Char} (pattern rest : List Char)
    (hends : ∀ seen, ends seen = true → (pattern ++ ['>']).reverse <+: seen)
    (hinside : ¬ pattern ++ ['>'] <:+: cs) (hend : ends ('>' :: cs.reverse) = true) :
    cutAt ends [] (cs ++ '>' :: rest) = some (cs, rest) := by
  refine cutAt_append [] rest (fun before d after hsplit => ?_) (by rw [List.append_nil, hend])
  rw [List.append_nil, Bool.eq_false_iff]
  intro htrue
  obtain ⟨rfl, init, rfl⟩ := eq_append_of_reverse pattern (hends _ htrue)
  refine hinside ⟨init, after, ?_⟩
  rw [hsplit]
  simp

/-- A CDATA section ends at the first place where it may. -/
theorem cutAt_cdata {cs : List Char} (rest : List Char) (h : ¬ [']', ']', '>'] <:+: cs) :
    cutAt endsCData [] ('!' :: cdataStart ++ (cs ++ [']', ']']) ++ '>' :: rest) =
      some ('!' :: cdataStart ++ (cs ++ [']', ']']), rest) := by
  refine cutAt_of_infix [']', ']'] rest (fun seen hends => ?_) (fun hinfix => ?_) ?_
  · unfold endsCData at hends
    split at hends
    · exact ⟨_, rfl⟩
    · cases hends
  · have hinside : [']', ']'] ++ ['>'] <:+: cs ++ [']', ']'] :=
      infix_of_append_infix hinfix (by decide)
    exact h (infix_of_infix_append hinside (by decide))
  · simp [endsCData]

/-- A processing instruction ends at the first place where it may. -/
theorem cutAt_instruction {cs : List Char} (rest : List Char) (h : ¬ ['?', '>'] <:+: '?' :: cs) :
    cutAt endsInstruction [] ('?' :: cs ++ ['?'] ++ '>' :: rest) =
      some ('?' :: cs ++ ['?'], rest) := by
  refine cutAt_of_infix ['?'] rest (fun seen hends => ?_) (fun hinfix => ?_) ?_
  · unfold endsInstruction at hends
    split at hends
    · exact ⟨_, rfl⟩
    · cases hends
  · exact h (infix_of_infix_append hinfix (by decide))
  · simp [endsInstruction]

/-- A comment ends at the first place where it may. The hyphens that begin it do not end it. -/
theorem cutAt_comment {cs : List Char} (rest : List Char) (h : ¬ ['-', '-', '>'] <:+: cs) :
    cutAt endsComment [] ('!' :: '-' :: '-' :: (cs ++ ['-', '-']) ++ '>' :: rest) =
      some ('!' :: '-' :: '-' :: (cs ++ ['-', '-']), rest) := by
  refine cutAt_append [] rest (fun before d after hsplit => ?_) ?_
  · rw [Bool.eq_false_iff, List.append_nil]
    intro hends
    obtain ⟨rest, hrev, hlength⟩ :
        ∃ rest, d :: before.reverse = ['>', '-', '-'] ++ rest ∧ 3 ≤ rest.length := by
      unfold endsComment at hends
      split at hends
      · next rest heq => exact ⟨rest, heq, of_decide_eq_true hends⟩
      · cases hends
    obtain ⟨rfl, init, rfl⟩ := eq_append_of_reverse ['-', '-'] ⟨rest, hrev.symm⟩
    have hinit : 3 ≤ init.length := by
      have h := congrArg List.length hrev
      simp only [List.length_cons, List.length_reverse, List.length_append, List.length_nil] at h
      omega
    match init, hinit with
    | x :: y :: z :: middle, _ =>
      simp only [List.cons_append, List.cons.injEq, List.append_assoc, List.nil_append] at hsplit
      have hinfix : ['-', '-'] ++ ['>'] <:+: cs ++ ['-', '-'] := by
        rw [hsplit.2.2.2]
        exact ⟨middle, after, by simp⟩
      exact h (infix_of_infix_append hinfix (by decide))
  · simp [endsComment]

/-! ### Judging markup -/

theorem of?_eq_tag {c : Char} (cs : List Char) (hbang : c ≠ '!') (hquestion : c ≠ '?') :
    MarkupRule.of? (c :: cs) =
      .ok ⟨cutTag none [], fun content => .ok (tagMarkup content), .unclosedTag, cutTag_length⟩ := by
  unfold MarkupRule.of?
  split
  all_goals first
    | rfl
    | next heq => cases heq; exact absurd rfl ‹_›

theorem cdataMarkup_eq (cs : List Char) :
    cdataMarkup ('!' :: cdataStart ++ (cs ++ [']', ']'])) = .ok (.cdata cs) := by
  have hdrop : (cs ++ [']', ']']).dropLast.dropLast = cs := by
    rw [List.append_cons, List.dropLast_concat, List.dropLast_concat]
  simp only [cdataMarkup, cdataStart, List.cons_append, List.nil_append, hdrop]

theorem instructionMarkup_eq (cs : List Char) :
    instructionMarkup ('?' :: cs ++ ['?']) = .ok .aside := by
  rw [instructionMarkup, if_pos]
  simp

end EntityForge.Xml
