import EntityForge.Proofs.Java.Comments

/-!
# The comment on a class

The comment on a class should be a block: a line that opens it, lines that each begin with a star,
and a line that closes it, the only one to hold the sign that ends a comment. The comment of the
table is cut into lines and the sign in it is written in another way, so whatever it says fits into
a block. The name of the table and the creator are written on one line as they are, the name with
its signs. The block is well formed just where the two do no harm.
-/

namespace EntityForge.Java

open Model (Entity)

/-! ### Blocks -/

/-- The lines of a text, each of them ended. -/
def endedLines (text : String) : List (List Char) :=
  (text.toList.splitOn '\n').dropLast

/-- A text is a well-formed comment block. -/
structure IsBlock (text : String) : Prop where
  /-- The last line is ended, too. -/
  ended : (text.toList.splitOn '\n').getLast? = some []
  /-- The first line opens the block. -/
  opens : (endedLines text).head? = some "/**".toList
  /-- The last line closes it. -/
  closes : (endedLines text).getLast? = some " */".toList
  /-- Every line between the two begins with a star behind a blank. -/
  bordered : ∀ line ∈ (endedLines text).tail.dropLast, [' ', '*'] <+: line
  /-- No line but the last holds the sign that ends a comment. -/
  sole : ∀ line ∈ (endedLines text).dropLast, EndFree line

/-- Every line of a text but the first begins with a star behind a blank. -/
def Continued (cs : List Char) : Prop :=
  ∀ line ∈ (cs.splitOn '\n').tail, [' ', '*'] <+: line

instance (cs : List Char) : Decidable (Continued cs) := inferInstanceAs (Decidable (∀ _ ∈ _, _))

/-- All lines that written lines make begin with a star behind a blank and hold no sign. -/
def FitBlock (written : List String) : Prop :=
  ∀ line ∈ physical written, [' ', '*'] <+: line ∧ EndFree line

instance (written : List String) : Decidable (FitBlock written) :=
  inferInstanceAs (Decidable (∀ _ ∈ _, _))

theorem fitBlock_append {xs ys : List String} :
    FitBlock (xs ++ ys) ↔ FitBlock xs ∧ FitBlock ys := by
  rw [FitBlock, physical_append, List.forall_mem_append]
  rfl

theorem endedLines_textOf (written : List String) :
    endedLines (textOf written) = physical written := by
  rw [endedLines, splitOn_textOf, List.dropLast_concat]

/-- Written lines between the two that open and close are a block just where all their lines fit. -/
theorem isBlock_textOf_iff {body : List String} :
    IsBlock (textOf (["/**"] ++ body ++ [" */"])) ↔ FitBlock body := by
  have hopening : EndFree "/**".toList := by decide
  have hlines := (endedLines_textOf (["/**"] ++ body ++ [" */"])).trans
    (physical_block body (by decide) (by decide))
  constructor
  · intro h line hline
    have hbordered := h.bordered
    have hsole := h.sole
    rw [hlines] at hbordered hsole
    rw [List.tail_cons, List.dropLast_concat] at hbordered
    rw [← List.cons_append, List.dropLast_concat] at hsole
    exact ⟨hbordered line hline, hsole line (List.mem_cons_of_mem _ hline)⟩
  · intro h
    refine ⟨?_, ?_, ?_, ?_, ?_⟩
    · rw [splitOn_textOf, List.getLast?_concat]
    · rw [hlines, List.head?_cons]
    · rw [hlines, ← List.cons_append, List.getLast?_concat]
    · rw [hlines, List.tail_cons, List.dropLast_concat]
      exact fun line hline => (h line hline).1
    · rw [hlines, ← List.cons_append, List.dropLast_concat]
      exact List.forall_mem_cons.mpr ⟨hopening, fun line hline => (h line hline).2⟩

/-! ### Written lines of a block -/

/-- No line of a text holds the sign just where the text does not hold it. -/
theorem endFree_splitOn_iff {cs : List Char} :
    (∀ line ∈ cs.splitOn '\n', EndFree line) ↔ EndFree cs := by
  refine ⟨fun h => ?_, fun h line => h.of_mem_splitOn⟩
  induction cs with
  | nil => exact endFree_of_not_mem (by simp)
  | cons c cs ih =>
    rw [List.splitOn_cons_eq_if_modifyHead] at h
    obtain ⟨first, rest, hsplit⟩ := List.exists_cons_of_ne_nil (List.splitOn_ne_nil '\n' cs)
    rw [hsplit] at h ih
    intro hsign
    split_ifs at h with hc
    · -- a line feed has no part in the sign
      rcases List.infix_cons_iff.mp hsign with hsign | hsign
      · obtain ⟨hstar, -⟩ := List.cons_prefix_cons.mp hsign
        rw [← hstar] at hc
        cases hc
      · exact ih (List.forall_mem_cons.mp h).2 hsign
    · obtain ⟨hfirst, hrest⟩ := List.forall_mem_cons.mp h
      rcases List.infix_cons_iff.mp hsign with hsign | hsign
      · obtain ⟨rfl, hslash⟩ := List.cons_prefix_cons.mp hsign
        obtain ⟨tail, rfl⟩ := hslash
        rw [List.singleton_append, List.splitOn_cons_eq_if_modifyHead, if_neg (by decide)] at hsplit
        obtain ⟨second, others, hothers⟩ :=
          List.exists_cons_of_ne_nil (List.splitOn_ne_nil '\n' tail)
        rw [hothers, List.modifyHead_cons] at hsplit
        cases hsplit
        exact hfirst (List.prefix_append ['*', '/'] second).isInfix
      · exact ih (List.forall_mem_cons.mpr ⟨fun h => hfirst (List.infix_cons h), hrest⟩) hsign

/-- The beginning of a written line of a block. -/
structure Border (front : String) : Prop where
  /-- It is on one line. -/
  single : '\n' ∉ front.toList
  /-- It begins with a star behind a blank. -/
  bordered : [' ', '*'] <+: front.toList
  /-- It holds no sign. -/
  endFree : EndFree front.toList
  /-- No slash behind it makes a sign. -/
  star : front.toList.getLast? ≠ some '*'

/-- A text fits into a block behind the beginning of a line just where it does not hold the sign and
its further lines begin as lines of the block do. -/
theorem Border.fitBlock_iff {front : String} (h : Border front) (text : String) :
    FitBlock [front ++ text] ↔ EndFree text.toList ∧ Continued text.toList := by
  have hphysical : physical [front ++ text] = (front.toList ++ text.toList).splitOn '\n' := by
    simp [physical]
  have hbordered : (∀ line ∈ (front.toList ++ text.toList).splitOn '\n', [' ', '*'] <+: line) ↔
      Continued text.toList := by
    obtain ⟨first, rest, hsplit⟩ :=
      List.exists_cons_of_ne_nil (List.splitOn_ne_nil '\n' text.toList)
    rw [Text.splitOn_append_left h.single, Continued, hsplit, List.modifyHead_cons, List.tail_cons]
    exact List.forall_mem_cons.trans
      (and_iff_right (h.bordered.trans (List.prefix_append front.toList first)))
  have hsign : EndFree (front.toList ++ text.toList) ↔ EndFree text.toList :=
    ⟨fun hfree hsign => hfree (hsign.trans (List.suffix_append _ _).isInfix),
      fun hfree => h.endFree.append hfree h.star⟩
  rw [FitBlock, hphysical]
  simp only [forall_and]
  rw [hbordered, endFree_splitOn_iff, hsign, and_comm]

/-- A text on one line has no further lines. -/
theorem continued_of_single {cs : List Char} (h : '\n' ∉ cs) : Continued cs := by
  rw [Continued, List.splitOn_eq_singleton h]
  simp

theorem Border.fitBlock_single {front text : String} (h : Border front)
    (hsingle : '\n' ∉ text.toList) (hfree : EndFree text.toList) : FitBlock [front ++ text] :=
  (h.fitBlock_iff text).mpr ⟨hfree, continued_of_single hsingle⟩

/-! ### Comment text -/

/-- Writing signs in another way breaks no line. -/
theorem newline_mem_of_withoutCommentEnd {cs : List Char} (h : '\n' ∈ withoutCommentEnd cs) :
    '\n' ∈ cs := by
  fun_induction withoutCommentEnd cs with
  | case1 rest ih =>
    rcases List.mem_append.mp h with h | h
    · exact absurd h (by decide)
    · exact List.mem_cons_of_mem _ (List.mem_cons_of_mem _ (ih h))
  | case2 d rest _ ih =>
    rcases List.mem_cons.mp h with hd | h
    · exact hd ▸ List.mem_cons_self
    · exact List.mem_cons_of_mem _ (ih h)
  | case3 => cases h

/-- Comment text of one line is on one line. -/
theorem single_commentText {line : String} (h : '\n' ∉ line.toList) :
    '\n' ∉ (commentText line).toList := by
  rw [commentText, Text.trim, String.toList_ofList, String.toList_ofList]
  exact fun hmem => h (Text.mem_of_mem_trimChars (newline_mem_of_withoutCommentEnd hmem))

/-- The first line of a text begins as the text does. -/
theorem exists_cons_of_splitOn {c : Char} {cs first : List Char} {others : List (List Char)}
    (h : cs.splitOn '\n' = (c :: first) :: others) : ∃ rest, cs = c :: rest := by
  cases cs with
  | nil => cases h
  | cons d rest =>
    rw [List.splitOn_cons_eq_if_modifyHead] at h
    split_ifs at h
    · cases h
    · obtain ⟨second, more, hmore⟩ := List.exists_cons_of_ne_nil (List.splitOn_ne_nil '\n' rest)
      rw [hmore, List.modifyHead_cons] at h
      cases h
      exact ⟨rest, rfl⟩

/-- Cutting text into lines and writing its signs in another way go together. -/
theorem splitOn_withoutCommentEnd (cs : List Char) :
    (withoutCommentEnd cs).splitOn '\n' = (cs.splitOn '\n').map withoutCommentEnd := by
  fun_induction withoutCommentEnd cs with
  | case1 rest ih =>
    have hsign : '\n' ∉ ['*', '/'] := by decide
    have hwritten : '\n' ∉ "*&#47;".toList := by decide
    obtain ⟨first, others, hrest⟩ := List.exists_cons_of_ne_nil (List.splitOn_ne_nil '\n' rest)
    have hsplit := Text.splitOn_append_left hsign rest
    have hreplaced := Text.splitOn_append_left hwritten (withoutCommentEnd rest)
    rw [hrest, List.modifyHead_cons] at hsplit
    rw [ih, hrest, List.map_cons, List.modifyHead_cons] at hreplaced
    exact hreplaced.trans (congrArg (List.map withoutCommentEnd) hsplit).symm
  | case2 c rest hother ih =>
    obtain ⟨first, others, hrest⟩ := List.exists_cons_of_ne_nil (List.splitOn_ne_nil '\n' rest)
    rw [List.splitOn_cons_eq_if_modifyHead, List.splitOn_cons_eq_if_modifyHead, ih, hrest]
    split_ifs with hc
    · rfl
    · rw [List.map_cons, List.modifyHead_cons, List.modifyHead_cons, List.map_cons,
        withoutCommentEnd_cons]
      -- the first line begins as the rest does, so no sign begins with the character either
      rintro tail rfl rfl
      obtain ⟨rest, rfl⟩ := exists_cons_of_splitOn hrest
      exact hother _ rfl rfl
  | case3 => rfl

theorem border_withoutCommentEnd (line : List Char) :
    [' ', '*'] <+: withoutCommentEnd line ↔ [' ', '*'] <+: line := by
  have hblank : ∀ rest, withoutCommentEnd (' ' :: rest) = ' ' :: withoutCommentEnd rest := by
    intro rest
    refine withoutCommentEnd_cons fun tail hstar _ => ?_
    cases hstar
  have hstar : ∀ rest, ['*'] <+: rest ↔ rest.head? = some '*' := by
    intro rest
    cases rest with
    | nil => simp
    | cons c rest => simp [List.cons_prefix_cons, eq_comm]
  cases line with
  | nil => rfl
  | cons c rest =>
    by_cases hc : c = ' '
    · rw [hc, hblank, List.cons_prefix_cons, List.cons_prefix_cons, hstar, hstar,
        head?_withoutCommentEnd]
    · -- what begins with something else goes on beginning with it
      have hhead := head?_withoutCommentEnd (c :: rest)
      refine iff_of_false (fun h => ?_) fun h => hc (List.cons_prefix_cons.mp h).1.symm
      obtain ⟨tail, htail⟩ := h
      rw [← htail] at hhead
      exact hc (Option.some.inj hhead).symm

theorem continued_withoutCommentEnd (cs : List Char) :
    Continued (withoutCommentEnd cs) ↔ Continued cs := by
  rw [Continued, Continued, splitOn_withoutCommentEnd, ← List.map_tail]
  simp only [List.forall_mem_map, border_withoutCommentEnd]

/-! ### Class comments -/

theorem single_of_mem_lines {text line : String} (h : line ∈ lines text) : '\n' ∉ line.toList := by
  have hpieces : line ∈ (text.toList.splitOnP (· == '\n')).map String.ofList := by
    rw [lines] at h
    split_ifs at h
    · exact List.mem_of_mem_dropLast h
    · exact h
  obtain ⟨piece, hpiece, rfl⟩ := List.mem_map.mp hpieces
  rw [String.toList_ofList]
  intro hmem
  cases Text.not_of_mem_splitOnP hpiece _ hmem

/-- The comment of the table fits, whatever it says. -/
theorem fitBlock_comment (text : String) :
    FitBlock ((lines text).map (" * " ++ commentText ·) ++ [" * <p>"]) := by
  have hborder : Border " * " := ⟨by decide, by decide, by decide, by decide⟩
  refine fitBlock_append.mpr ⟨fun line hline => ?_, by decide⟩
  obtain ⟨written, hwritten, hpiece⟩ := List.mem_flatMap.mp hline
  obtain ⟨piece, hmem, rfl⟩ := List.mem_map.mp hwritten
  have hfits := hborder.fitBlock_single (single_commentText (single_of_mem_lines hmem))
    (endFree_commentText piece)
  exact hfits line (List.mem_flatMap.mpr ⟨_, List.mem_singleton_self _, hpiece⟩)

/-- The creator fits just where its further lines begin as the lines of the block do. -/
theorem fitBlock_author (creator : Option String) :
    FitBlock ((Text.nonBlankOf creator).map fun name => " * @author " ++ commentText name).toList ↔
      ∀ name, Text.nonBlankOf creator = some name → Continued name.toList := by
  have hborder : Border " * @author " :=
    ⟨by decide +kernel, by decide, by decide +kernel, by decide +kernel⟩
  cases hname : Text.nonBlankOf creator with
  | none => simp [FitBlock, physical]
  | some name =>
    have htext : (commentText name).toList = withoutCommentEnd name.toList := by
      rw [commentText, String.toList_ofList, Text.trim_of_nonBlankOf hname]
    rw [Option.map_some, Option.toList_some, hborder.fitBlock_iff,
      and_iff_right (endFree_commentText name), htext, continued_withoutCommentEnd]
    simp

/-- The moment fits. -/
theorem fitBlock_date (date : Option Calendar.Instant) :
    FitBlock (date.map fun date => " * @date " ++ date.toPlainText).toList := by
  have hborder : Border " * @date " :=
    ⟨by decide +kernel, by decide, by decide +kernel, by decide +kernel⟩
  cases date with
  | none => simp [FitBlock, physical]
  | some date =>
    exact hborder.fitBlock_single (not_mem_toPlainText (by decide) (by decide) date)
      (endFree_of_not_mem (not_mem_toPlainText (by decide) (by decide) date))

theorem fitBlock_rest {rest : List String} :
    FitBlock (if rest.isEmpty then [] else " *" :: rest) ↔ FitBlock rest := by
  have hstar : FitBlock [" *"] := by decide
  cases rest with
  | nil => rfl
  | cons line rest =>
    have hcons : " *" :: line :: rest = [" *"] ++ line :: rest := rfl
    rw [List.isEmpty_cons, if_neg (by decide), hcons, fitBlock_append, and_iff_right hstar]

/-- The comment on a class, whatever comment of the table fits. -/
theorem isBlock_classBlock_iff {comment rest : List String} {table : String}
    (hcomment : FitBlock comment) :
    IsBlock (textOf (["/**"] ++ comment ++ [" * Table: " ++ table] ++
        (if rest.isEmpty then [] else " *" :: rest) ++ [" */"])) ↔
      (EndFree table.toList ∧ Continued table.toList) ∧ FitBlock rest := by
  have hborder : Border " * Table: " :=
    ⟨by decide +kernel, by decide, by decide +kernel, by decide +kernel⟩
  rw [List.append_assoc ["/**"], List.append_assoc ["/**"], isBlock_textOf_iff, fitBlock_append,
    fitBlock_append, and_iff_right hcomment, hborder.fitBlock_iff, fitBlock_rest]

/-- The comment on a class is a well-formed block just where the name of the table does not hold the
sign that ends a comment and neither that name nor the creator goes on in a line that does not begin
as the lines of the block do. The comment of the table and the date play no part. -/
theorem isBlock_classComment_iff (e : Entity) :
    IsBlock (textOf (classComment e)) ↔
      (EndFree e.tableName.toList ∧ Continued e.tableName.toList) ∧
        ∀ name, Text.nonBlankOf e.creator = some name → Continued name.toList := by
  rw [classComment, isBlock_classBlock_iff, fitBlock_append, and_iff_left (fitBlock_date _),
    fitBlock_author]
  cases Text.nonBlankOf e.comment with
  | none => simp [FitBlock, physical]
  | some text => exact fitBlock_comment text

/-- An entity of a table name and a creator, and no more. -/
def signedEntity (tableName : String) (creator : Option String) : Entity :=
  { name := "Order", tableName, comment := none, creator, createDate := none, tableId := "o1"
    primaryKeyColId := none, fields := [], dependencies := .empty }

/-- A table name that holds the sign ends the comment on its class early, and a creator of two lines
has the second one stand in the comment without a star. -/
theorem not_isBlock_classComment :
    ¬ IsBlock (textOf (classComment (signedEntity "t*/order" none))) ∧
      ¬ IsBlock (textOf (classComment (signedEntity "t_order" (some "Ann\nBob")))) := by
  refine ⟨fun h => ?_, fun h => ?_⟩
  · have hline : " * Table: t*/order".toList ∈
        (endedLines (textOf (classComment (signedEntity "t*/order" none)))).dropLast := by
      decide +kernel
    exact h.sole _ hline (by decide +kernel)
  · have hline : "Bob".toList ∈ (endedLines
        (textOf (classComment (signedEntity "t_order" (some "Ann\nBob"))))).tail.dropLast := by
      decide +kernel
    exact absurd (h.bordered _ hline) (by decide +kernel)

end EntityForge.Java
