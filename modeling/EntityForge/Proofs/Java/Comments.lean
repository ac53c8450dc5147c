import EntityForge.Proofs.Generation.Planning
import EntityForge.Proofs.Model.NameSets
import EntityForge.Proofs.Text.Case
import EntityForge.Proofs.Text.Numerals
import Mathlib.Data.List.Infix

/-!
# Comments of classes

A comment of a class is a block of lines: one that opens it, lines of text, and the first line that
holds the sign which ends it. Comment text comes from the document as it is, but it is trimmed line
by line and the sign is written in another way, so a block ends with its own last line and nowhere
before, and taking the blocks out of a class leaves lines in which no comment text has a part.
-/

namespace EntityForge.Java

open Model (Entity Field)

/-! ### Taking blocks out -/

/-- Whether a line opens a block: behind its indentation it is the sign that begins one. -/
def opensBlock (line : List Char) : Bool :=
  line.dropWhile Text.isBlank == ['/', '*', '*']

/-- Whether a line closes a block: it holds the sign that ends one. -/
def closesBlock (line : List Char) : Bool :=
  decide (['*', '/'] <:+: line)

/-- Lines without their blocks. A block may have begun before them. -/
def outsideBlocks : Bool → List (List Char) → List (List Char)
  | _, [] => []
  | true, line :: rest => outsideBlocks (!closesBlock line) rest
  | false, line :: rest =>
    if opensBlock line then outsideBlocks true rest else line :: outsideBlocks false rest

/-- A text without its blocks. -/
def withoutBlocks (text : String) : String :=
  String.ofList (['\n'].intercalate (outsideBlocks false (text.toList.splitOn '\n')))

/-- What is left of some lines, whatever lines follow them, when their blocks are taken out. -/
def Leaves (lines kept : List (List Char)) : Prop :=
  ∀ rest, outsideBlocks false (lines ++ rest) = kept ++ outsideBlocks false rest

theorem Leaves.nil : Leaves [] [] := fun _ => rfl

theorem Leaves.append {xs ys xs' ys' : List (List Char)} (hx : Leaves xs xs') (hy : Leaves ys ys') :
    Leaves (xs ++ ys) (xs' ++ ys') := by
  intro rest
  rw [List.append_assoc, hx, hy, List.append_assoc]

/-- Lines that open no block are left. -/
theorem leaves_self {lines : List (List Char)} (h : ∀ line ∈ lines, opensBlock line = false) :
    Leaves lines lines := by
  intro rest
  induction lines with
  | nil => rfl
  | cons line lines ih =>
    obtain ⟨hline, hlines⟩ := List.forall_mem_cons.mp h
    simp [outsideBlocks, hline, ih hlines]

/-- Nothing is left of a block. -/
theorem leaves_block {first last : List Char} {body : List (List Char)}
    (hfirst : opensBlock first = true) (hbody : ∀ line ∈ body, closesBlock line = false)
    (hlast : closesBlock last = true) : Leaves (first :: (body ++ [last])) [] := by
  have hinside : ∀ rest,
      outsideBlocks true (body ++ [last] ++ rest) = outsideBlocks false rest := by
    intro rest
    induction body with
    | nil => simp [outsideBlocks, hlast]
    | cons line body ih =>
      obtain ⟨hline, hbody⟩ := List.forall_mem_cons.mp hbody
      simpa [outsideBlocks, hline] using ih hbody
  intro rest
  rw [List.cons_append, outsideBlocks, if_pos hfirst, hinside, List.nil_append]

/-! ### Text without the sign -/

/-- A text does not hold the sign that ends a block. -/
def EndFree (cs : List Char) : Prop :=
  ¬ ['*', '/'] <:+: cs

instance (cs : List Char) : Decidable (EndFree cs) := inferInstanceAs (Decidable (¬ _))

theorem closesBlock_eq_false {line : List Char} : closesBlock line = false ↔ EndFree line :=
  decide_eq_false_iff_not

theorem endFree_of_not_mem {cs : List Char} (h : '/' ∉ cs) : EndFree cs :=
  fun hsign => h (hsign.subset (by simp))

/-- The sign can only come about between two texts if the first one ends with a star. -/
theorem EndFree.append {xs ys : List Char} (hx : EndFree xs) (hy : EndFree ys)
    (hstar : xs.getLast? ≠ some '*') : EndFree (xs ++ ys) := by
  intro hsign
  rcases List.infix_append_iff.mp hsign with hsign | hsign | ⟨front, back, heq, hfront, hback⟩
  · exact hx hsign
  · exact hy hsign
  · match front, heq with
    | [], heq => exact hy (by rw [heq]; exact hback.isInfix)
    | ['*'], _ =>
      obtain ⟨before, rfl⟩ := hfront
      simp at hstar
    | ['*', '/'], _ => exact hx hfront.isInfix
    | _ :: _ :: _ :: _, heq => cases heq

/-- A character that begins no sign stays. -/
theorem withoutCommentEnd_cons {c : Char} {rest : List Char}
    (h : ∀ tail, c = '*' → rest = '/' :: tail → False) :
    withoutCommentEnd (c :: rest) = c :: withoutCommentEnd rest := by
  rw [withoutCommentEnd.eq_def]
  split
  · next tail heq =>
    cases heq
    exact absurd rfl (h tail rfl)
  · next heq =>
    cases heq
    rfl
  · next heq => cases heq

theorem head?_withoutCommentEnd (cs : List Char) : (withoutCommentEnd cs).head? = cs.head? := by
  fun_cases withoutCommentEnd cs <;> rfl

theorem endFree_withoutCommentEnd (cs : List Char) : EndFree (withoutCommentEnd cs) := by
  fun_induction withoutCommentEnd cs with
  | case1 rest ih =>
    exact EndFree.append (by decide +kernel) ih (by decide)
  | case2 c rest hother ih =>
    intro hsign
    rcases List.infix_cons_iff.mp hsign with hsign | hsign
    · -- what follows a star begins as it did before, so not with a slash
      obtain ⟨hstar, tail, htail⟩ := List.cons_prefix_cons.mp hsign
      have hhead := head?_withoutCommentEnd rest
      rw [← htail] at hhead
      obtain ⟨tail', htail'⟩ := List.head?_eq_some_iff.mp hhead.symm
      exact hother tail' hstar.symm htail'
    · exact ih hsign
  | case3 => exact endFree_of_not_mem (by simp)

theorem infix_intercalate {sep piece : List Char} {pieces : List (List Char)}
    (h : piece ∈ pieces) : piece <:+: sep.intercalate pieces := by
  induction pieces with
  | nil => cases h
  | cons first rest ih =>
    cases rest with
    | nil =>
      obtain rfl := List.mem_singleton.mp h
      simp only [List.intercalate_singleton, List.infix_rfl]
    | cons second rest =>
      rw [List.intercalate_cons_cons]
      rcases List.mem_cons.mp h with rfl | h
      · exact ((List.prefix_append piece _).trans (List.prefix_append _ _)).isInfix
      · exact (ih h).trans (List.suffix_append _ _).isInfix

/-- The lines of a text hold no sign that the text does not hold. -/
theorem EndFree.of_mem_splitOn {cs line : List Char} (h : EndFree cs)
    (hline : line ∈ cs.splitOn '\n') : EndFree line := by
  intro hsign
  have hinfix : line <:+: ['\n'].intercalate (cs.splitOn '\n') := infix_intercalate hline
  rw [List.intercalate_splitOn] at hinfix
  exact h (hsign.trans hinfix)

/-! ### Written lines -/

/-- The lines that written lines make in a text. A written line may hold line feeds. -/
def physical (written : List String) : List (List Char) :=
  written.flatMap fun line => line.toList.splitOn '\n'

theorem physical_append (xs ys : List String) : physical (xs ++ ys) = physical xs ++ physical ys :=
  List.flatMap_append

/-- Written lines as one text. -/
def textOf (written : List String) : String :=
  String.join (written.map (· ++ "\n"))

theorem textOf_append (xs ys : List String) : textOf (xs ++ ys) = textOf xs ++ textOf ys := by
  apply String.toList_inj.mp
  simp [textOf, String.toList_join]

theorem textOf_flatMap {α : Type} (items : List α) (written : α → List String) :
    textOf (items.flatMap written) = String.join (items.map fun a => textOf (written a)) := by
  apply String.toList_inj.mp
  induction items with
  | nil => rfl
  | cons a items ih =>
    rw [List.flatMap_cons, textOf_append, String.toList_append, ih, List.map_cons,
      String.toList_join, String.toList_join, List.flatMap_cons]

theorem splitOn_textOf (written : List String) :
    (textOf written).toList.splitOn '\n' = physical written ++ [[]] := by
  rw [textOf, String.toList_join]
  induction written with
  | nil => rfl
  | cons line rest ih =>
    have hnewline : "\n".toList = ['\n'] := rfl
    rw [List.map_cons, List.flatMap_cons, String.toList_append, hnewline, List.append_assoc,
      List.singleton_append, List.splitOn_append_cons_self, ih, physical, physical,
      List.flatMap_cons, List.append_assoc]

/-- A text whose lines leave those of another text is that text when its blocks are taken out. -/
theorem withoutBlocks_textOf {written kept : List String}
    (h : Leaves (physical written) (physical kept)) :
    withoutBlocks (textOf written) = textOf kept := by
  have hend : outsideBlocks false [[]] = [[]] := rfl
  rw [withoutBlocks, splitOn_textOf, h, hend, ← splitOn_textOf, List.intercalate_splitOn,
    String.ofList_toList]

/-- What is left item by item is left altogether. -/
theorem Leaves.flatMap {α : Type} {items : List α} {f g : α → List String}
    (h : ∀ a ∈ items, Leaves (physical (f a)) (physical (g a))) :
    Leaves (physical (items.flatMap f)) (physical (items.flatMap g)) := by
  induction items with
  | nil => exact .nil
  | cons a items ih =>
    obtain ⟨ha, hitems⟩ := List.forall_mem_cons.mp h
    rw [List.flatMap_cons, List.flatMap_cons, physical_append, physical_append]
    exact ha.append (ih hitems)

/-- A written line of code: it is a single line and opens no block. -/
structure CodeLine (line : String) : Prop where
  /-- It is a single line. -/
  single : '\n' ∉ line.toList
  /-- It opens no block. -/
  plain : opensBlock line.toList = false

theorem splitOn_of_single {line : String} (h : '\n' ∉ line.toList) :
    line.toList.splitOn '\n' = [line.toList] :=
  List.splitOn_eq_singleton h

/-- Lines without line feeds stand in the text as they are written. -/
theorem physical_of_single {written : List String} (h : ∀ line ∈ written, '\n' ∉ line.toList) :
    physical written = written.map String.toList := by
  induction written with
  | nil => rfl
  | cons line written ih =>
    obtain ⟨hline, hwritten⟩ := List.forall_mem_cons.mp h
    rw [List.map_cons, ← ih hwritten, physical, List.flatMap_cons, splitOn_of_single hline]
    rfl

theorem leaves_code {written : List String} (h : ∀ line ∈ written, CodeLine line) :
    Leaves (physical written) (physical written) := by
  refine leaves_self fun piece hpiece => ?_
  obtain ⟨line, hline, hsplit⟩ := List.mem_flatMap.mp hpiece
  rw [splitOn_of_single (h line hline).single, List.mem_singleton] at hsplit
  rw [hsplit]
  exact (h line hline).plain

theorem physical_block {first last : String} (body : List String) (hfirst : '\n' ∉ first.toList)
    (hlast : '\n' ∉ last.toList) :
    physical ([first] ++ body ++ [last]) = first.toList :: (physical body ++ [last.toList]) := by
  simp [physical, splitOn_of_single hfirst, splitOn_of_single hlast]

/-- Nothing is left of a written comment. -/
theorem leaves_comment {first last : String} {body : List String} (hfirst : '\n' ∉ first.toList)
    (hopen : opensBlock first.toList = true) (hbody : ∀ line ∈ body, EndFree line.toList)
    (hlast : '\n' ∉ last.toList) (hclose : closesBlock last.toList = true) :
    Leaves (physical ([first] ++ body ++ [last])) (physical []) := by
  rw [physical_block body hfirst hlast]
  refine leaves_block hopen (fun piece hpiece => ?_) hclose
  obtain ⟨line, hline, hsplit⟩ := List.mem_flatMap.mp hpiece
  exact closesBlock_eq_false.mpr ((hbody line hline).of_mem_splitOn hsplit)

/-! ### Lines of code -/

/-- Whether a line begins, behind its indentation, with a character that begins no block. -/
def startsCode (line : List Char) : Bool :=
  match line.dropWhile Text.isBlank with
  | [] => false
  | c :: _ => c != '/'

/-- A single line that begins with code. -/
structure CodeStart (line : String) : Prop where
  /-- It is a single line. -/
  single : '\n' ∉ line.toList
  /-- It begins with code. -/
  starts : startsCode line.toList = true

theorem exists_of_startsCode {line : List Char} (h : startsCode line = true) :
    ∃ c rest, line.dropWhile Text.isBlank = c :: rest ∧ c ≠ '/' := by
  rw [startsCode] at h
  split at h
  · cases h
  · next c rest hline => exact ⟨c, rest, hline, by simpa using h⟩

/-- What goes on from the beginning of a line of code begins no block. -/
theorem startsCode_append {front : List Char} (h : startsCode front = true) (cs : List Char) :
    startsCode (front ++ cs) = true := by
  obtain ⟨c, rest, hrest, hslash⟩ := exists_of_startsCode h
  rw [startsCode, List.dropWhile_append, hrest]
  simpa using hslash

theorem opensBlock_of_startsCode {line : List Char} (h : startsCode line = true) :
    opensBlock line = false := by
  obtain ⟨c, rest, hrest, hslash⟩ := exists_of_startsCode h
  rw [opensBlock, hrest]
  simp [hslash]

/-- A line of code goes on with any text in which no line ends. -/
theorem CodeStart.append {line text : String} (h : CodeStart line) (htext : '\n' ∉ text.toList) :
    CodeStart (line ++ text) := by
  refine ⟨?_, ?_⟩
  · rw [String.toList_append, List.mem_append]
    exact not_or.mpr ⟨h.single, htext⟩
  · rw [String.toList_append]
    exact startsCode_append h.starts text.toList

theorem CodeStart.codeLine {line : String} (h : CodeStart line) : CodeLine line :=
  ⟨h.single, opensBlock_of_startsCode h.starts⟩

theorem codeLine_empty : CodeLine "" := ⟨by decide, by decide⟩

theorem codeLine_paragraph {lines : List String} (h : ∀ line ∈ lines, CodeLine line) :
    ∀ line ∈ paragraph lines, CodeLine line := by
  intro line hline
  rw [paragraph] at hline
  split at hline
  · cases hline
  · rcases List.mem_append.mp hline with hline | hline
    · exact h line hline
    · rw [List.mem_singleton.mp hline]
      exact codeLine_empty

theorem single_simpleName (t : Model.JavaType) : '\n' ∉ t.simpleName.toList := by
  cases t <;> decide

theorem single_accessorSuffix {name : String} (h : '\n' ∉ name.toList) :
    '\n' ∉ (accessorSuffix name).toList := by
  unfold accessorSuffix
  cases hname : name.toList with
  | nil => decide
  | cons c cs =>
    rw [hname, List.mem_cons, not_or] at h
    simp only [String.toList_ofList, List.mem_append, Text.mem_upper_iff Text.caseless_newline]
    exact not_or.mpr ⟨fun hc => h.1 hc.symm, h.2⟩

theorem single_toString (n : UInt32) : '\n' ∉ (toString n).toList := by
  have htext : toString n = Nat.repr n.toNat := rfl
  rw [htext, Nat.toList_repr]
  intro hmem
  cases (Text.numeral_toDigits n.toNat).isDigit '\n' hmem

/-! ### Classes -/

/-- A column without its comment. -/
def uncommentedField (f : Field) : Field := { f with comment := none }

/-- A table without its comment, its creator and its date, and with columns without comments. -/
def uncommented (e : Entity) : Entity :=
  { e with
    comment := none
    creator := none
    createDate := none
    fields := e.fields.map uncommentedField }

/-- The lines of the class of an entity outside its comments. -/
def codeLines (style : Style) (package : String) (e : Entity) : List String :=
  paragraph (if package = "" then [] else ["package " ++ package ++ ";"]) ++
    paragraph ((imports style e).names.map fun name => "import " ++ name ++ ";") ++
    classAnnotations style e ++ ["public class " ++ e.name ++ " \x7b"] ++
    e.fields.flatMap (fun f => fieldLines style (uncommentedField f)) ++
    (if style.hasAccessors then e.fields.flatMap accessorLines else []) ++ ["\x7d"]

/-- No name ends a line of the class, and the name of the table ends no comment. -/
structure PlainNames (package : String) (e : Entity) : Prop where
  /-- The package. -/
  package : '\n' ∉ package.toList
  /-- What is imported. -/
  dependencies : ∀ name ∈ e.dependencies.names, '\n' ∉ name.toList
  /-- The class. -/
  name : '\n' ∉ e.name.toList
  /-- The table. -/
  table : '\n' ∉ e.tableName.toList
  /-- The table, in the comment on the class. -/
  tableEnd : EndFree e.tableName.toList
  /-- The fields. -/
  field : ∀ f ∈ e.fields, '\n' ∉ f.name.toList
  /-- The columns. -/
  column : ∀ f ∈ e.fields, '\n' ∉ f.colName.toList

variable {style : Style} {package : String} {e : Entity} {f : Field}

theorem endFree_commentText (line : String) : EndFree (commentText line).toList := by
  rw [commentText, String.toList_ofList]
  exact endFree_withoutCommentEnd _

/-- Comment text behind the beginning of a line. -/
theorem endFree_append_commentText {front : String} (hfront : EndFree front.toList)
    (hstar : front.toList.getLast? ≠ some '*') (line : String) :
    EndFree (front ++ commentText line).toList := by
  rw [String.toList_append]
  exact hfront.append (endFree_commentText line) hstar

theorem leaves_fieldComment (f : Field) : Leaves (physical (fieldComment f)) (physical []) := by
  have hfirst : '\n' ∉ (indent 1 ++ "/**").toList := by decide +kernel
  have hopen : opensBlock (indent 1 ++ "/**").toList = true := by decide +kernel
  have hlast : '\n' ∉ (indent 1 ++ " */").toList := by decide +kernel
  have hclose : closesBlock (indent 1 ++ " */").toList = true := by decide +kernel
  rw [fieldComment]
  cases Text.nonBlankOf f.comment with
  | none => exact .nil
  | some text =>
    refine leaves_comment hfirst hopen (fun line hline => ?_) hlast hclose
    obtain ⟨piece, -, rfl⟩ := List.mem_map.mp hline
    exact endFree_append_commentText (by decide +kernel) (by decide +kernel) piece

theorem not_mem_padded {c : Char} (hc : c.isDigit = false) (width n : Nat) :
    c ∉ (Text.padded width n).toList := by
  intro hmem
  rw [(Text.numeral_padded width n).isDigit c hmem] at hc
  cases hc

theorem not_mem_toPlainText {c : Char} (hc : c.isDigit = false) (hmark : c ∉ ['-', '+', ' ', ':'])
    (t : Calendar.Instant) : c ∉ t.toPlainText.toList := by
  simp only [List.mem_cons, List.not_mem_nil, or_false, not_or] at hmark
  obtain ⟨hminus, hplus, hspace, hcolon⟩ := hmark
  have hyear : c ∉ (Calendar.yearText t.date.year).toList := by
    rw [Calendar.yearText]
    split_ifs <;> simp [not_mem_padded hc, hminus, hplus]
  simp [Calendar.Instant.toPlainText, Calendar.Civil.text, Calendar.Instant.clockText,
    not_mem_padded hc, hyear, hminus, hspace, hcolon]

/-- The comment on a class, whatever it says. -/
theorem leaves_classBlock {comment rest : List String}
    (hcomment : ∀ line ∈ comment, EndFree line.toList) (htable : EndFree e.tableName.toList)
    (hrest : ∀ line ∈ rest, EndFree line.toList) :
    Leaves (physical (["/**"] ++ comment ++ [" * Table: " ++ e.tableName] ++
      (if rest.isEmpty then [] else " *" :: rest) ++ [" */"])) (physical []) := by
  have htableLine : EndFree (" * Table: " ++ e.tableName).toList := by
    rw [String.toList_append]
    exact EndFree.append (by decide +kernel) htable (by decide +kernel)
  have hrest' : ∀ line ∈ (if rest.isEmpty then [] else " *" :: rest), EndFree line.toList := by
    split
    · simp
    · exact List.forall_mem_cons.mpr ⟨by decide +kernel, hrest⟩
  have hbody := List.forall_mem_append.mpr ⟨List.forall_mem_append.mpr
    ⟨hcomment, List.forall_mem_singleton.mpr htableLine⟩, hrest'⟩
  have hfirst : '\n' ∉ "/**".toList := by decide
  have hopen : opensBlock "/**".toList = true := by decide
  have hlast : '\n' ∉ " */".toList := by decide
  have hclose : closesBlock " */".toList = true := by decide
  have hall := leaves_comment hfirst hopen hbody hlast hclose
  simp only [List.append_assoc] at hall ⊢
  exact hall

theorem leaves_classComment (htable : EndFree e.tableName.toList) :
    Leaves (physical (classComment e)) (physical []) := by
  refine leaves_classBlock ?_ htable (List.forall_mem_append.mpr ⟨?_, ?_⟩)
  · cases Text.nonBlankOf e.comment with
    | none => simp
    | some text =>
      refine List.forall_mem_append.mpr ⟨fun line hline => ?_, List.forall_mem_singleton.mpr
        (by decide +kernel)⟩
      obtain ⟨piece, -, rfl⟩ := List.mem_map.mp hline
      exact endFree_append_commentText (by decide +kernel) (by decide +kernel) piece
  · cases Text.nonBlankOf e.creator with
    | none => simp
    | some name =>
      exact List.forall_mem_singleton.mpr
        (endFree_append_commentText (by decide +kernel) (by decide +kernel) name)
  · cases e.createDate with
    | none => simp
    | some date =>
      refine List.forall_mem_singleton.mpr ?_
      rw [String.toList_append]
      have hslash := not_mem_toPlainText (c := '/') (by decide) (by decide) date
      exact EndFree.append (by decide +kernel) (endFree_of_not_mem hslash) (by decide +kernel)

theorem single_styleImports : ∀ name ∈ styleImports style e, '\n' ∉ name.toList := by
  cases style with
  | pojo => simp [styleImports]
  | lombok => simp [styleImports]
  | jpa =>
    intro name hname
    rcases List.mem_append.mp hname with hname | hname
    · have hfixed : ∀ name ∈ ["jakarta.persistence.Column", "jakarta.persistence.Entity",
          "jakarta.persistence.Table"], '\n' ∉ name.toList := by decide +kernel
      exact hfixed name hname
    · split at hname
      · rw [List.mem_singleton.mp hname]
        decide +kernel
      · cases hname

theorem codeLine_imports (h : PlainNames package e) :
    ∀ line ∈ (imports style e).names.map fun name => "import " ++ name ++ ";", CodeLine line := by
  have himport : CodeStart "import " := ⟨by decide +kernel, by decide +kernel⟩
  intro line hline
  obtain ⟨name, hname, rfl⟩ := List.mem_map.mp hline
  have hsingle : '\n' ∉ name.toList :=
    (Model.NameSet.mem_foldl_insert.mp hname).elim (h.dependencies name) (single_styleImports name)
  exact ((himport.append hsingle).append (by decide +kernel)).codeLine

theorem codeLine_classAnnotations (htable : '\n' ∉ e.tableName.toList) :
    ∀ line ∈ classAnnotations style e, CodeLine line := by
  cases style with
  | pojo => simp [classAnnotations]
  | lombok => exact List.forall_mem_singleton.mpr ⟨by decide +kernel, by decide +kernel⟩
  | jpa =>
    have hstart : CodeStart "@Table(name = \"" := ⟨by decide +kernel, by decide +kernel⟩
    exact List.forall_mem_cons.mpr ⟨⟨by decide +kernel, by decide +kernel⟩,
      List.forall_mem_singleton.mpr ((hstart.append htable).append (by decide +kernel)).codeLine⟩

theorem codeLine_fieldAnnotations (hcolumn : '\n' ∉ f.colName.toList) :
    ∀ line ∈ fieldAnnotations style f, CodeLine line := by
  cases style with
  | pojo => simp [fieldAnnotations]
  | lombok => simp [fieldAnnotations]
  | jpa =>
    intro line hline
    rcases List.mem_append.mp hline with hline | hline
    · split at hline
      · rw [List.mem_singleton.mp hline]
        exact ⟨by decide +kernel, by decide +kernel⟩
      · cases hline
    · have hstart : CodeStart (indent 1 ++ "@Column(name = \"") :=
        ⟨by decide +kernel, by decide +kernel⟩
      have hlength : '\n' ∉ (f.colLength.elim "" fun n => s!", length = {n}").toList := by
        cases f.colLength with
        | none => decide
        | some n =>
          have htext : '\n' ∉ (", length = " ++ toString n).toList := by
            rw [String.toList_append, List.mem_append]
            exact not_or.mpr ⟨by decide +kernel, single_toString n⟩
          exact htext
      have hmandatory : '\n' ∉ (if f.mandatory then ", nullable = false" else "").toList := by
        split <;> decide
      rw [List.mem_singleton.mp hline]
      exact (((((hstart.append hcolumn).append (by decide +kernel)).append hlength).append
        hmandatory).append (by decide +kernel)).codeLine

theorem codeLine_declaration (hname : '\n' ∉ f.name.toList) :
    CodeLine (indent 1 ++ "private " ++ f.javaType.simpleName ++ " " ++ f.name ++ ";") := by
  have hstart : CodeStart (indent 1 ++ "private ") := ⟨by decide +kernel, by decide +kernel⟩
  exact ((((hstart.append (single_simpleName _)).append (by decide +kernel)).append hname).append
    (by decide +kernel)).codeLine

theorem leaves_fieldLines (hname : '\n' ∉ f.name.toList) (hcolumn : '\n' ∉ f.colName.toList) :
    Leaves (physical (fieldLines style f)) (physical (fieldLines style (uncommentedField f))) := by
  have hempty : Leaves (physical [""]) (physical [""]) :=
    leaves_code (List.forall_mem_singleton.mpr codeLine_empty)
  have hcode : Leaves (physical (fieldAnnotations style f)) (physical (fieldAnnotations style f)) :=
    leaves_code (codeLine_fieldAnnotations hcolumn)
  have hdeclared := leaves_code (List.forall_mem_singleton.mpr (codeLine_declaration hname))
  have h := ((hempty.append (leaves_fieldComment f)).append hcode).append hdeclared
  simp only [← physical_append] at h
  exact h

theorem codeLine_accessorLines (hname : '\n' ∉ f.name.toList) :
    ∀ line ∈ accessorLines f, CodeLine line := by
  have htype := single_simpleName f.javaType
  have hsuffix := single_accessorSuffix hname
  have hgetter : CodeStart (indent 1 ++ "public ") := ⟨by decide +kernel, by decide +kernel⟩
  have hreturn : CodeStart (indent 2 ++ "return ") := ⟨by decide +kernel, by decide +kernel⟩
  have hsetter : CodeStart (indent 1 ++ "public void set") := ⟨by decide +kernel, by decide +kernel⟩
  have hthis : CodeStart (indent 2 ++ "this.") := ⟨by decide +kernel, by decide +kernel⟩
  have hend : CodeLine (indent 1 ++ "\x7d") := ⟨by decide +kernel, by decide +kernel⟩
  intro line hline
  simp only [accessorLines, List.mem_cons, List.not_mem_nil, or_false] at hline
  rcases hline with rfl | rfl | rfl | rfl | rfl | rfl | rfl | rfl
  · exact codeLine_empty
  · exact ((((hgetter.append htype).append (by decide +kernel)).append hsuffix).append
      (by decide +kernel)).codeLine
  · exact ((hreturn.append hname).append (by decide +kernel)).codeLine
  · exact hend
  · exact codeLine_empty
  · exact ((((((hsetter.append hsuffix).append (by decide +kernel)).append htype).append
      (by decide +kernel)).append hname).append (by decide +kernel)).codeLine
  · exact ((((hthis.append hname).append (by decide +kernel)).append hname).append
      (by decide +kernel)).codeLine
  · exact hend

/-- The code of a class is left when its comments are taken out. -/
theorem leaves_classLines (h : PlainNames package e) :
    Leaves (physical (classLines style package e)) (physical (codeLines style package e)) := by
  have hpackage : ∀ line ∈ (if package = "" then [] else ["package " ++ package ++ ";"]),
      CodeLine line := by
    have hstart : CodeStart "package " := ⟨by decide, by decide⟩
    split
    · simp
    · exact List.forall_mem_singleton.mpr ((hstart.append h.package).append (by decide)).codeLine
  have hclass : CodeLine ("public class " ++ e.name ++ " \x7b") := by
    have hstart : CodeStart "public class " := ⟨by decide, by decide⟩
    exact ((hstart.append h.name).append (by decide)).codeLine
  have haccessors : ∀ line ∈ (if style.hasAccessors then e.fields.flatMap accessorLines else []),
      CodeLine line := by
    split
    · intro line hline
      obtain ⟨f, hf, hline⟩ := List.mem_flatMap.mp hline
      exact codeLine_accessorLines (h.field f hf) line hline
    · simp
  have hfields : Leaves (physical (e.fields.flatMap (fieldLines style)))
      (physical (e.fields.flatMap fun f => fieldLines style (uncommentedField f))) :=
    .flatMap fun f hf => leaves_fieldLines (h.field f hf) (h.column f hf)
  have hend : CodeLine "\x7d" := ⟨by decide, by decide⟩
  have himports : ∀ line ∈ (imports style e).names.map fun name => "import " ++ name ++ ";",
      CodeLine line := codeLine_imports h
  have hannotations : ∀ line ∈ classAnnotations style e, CodeLine line :=
    codeLine_classAnnotations h.table
  have hhead := (leaves_code (codeLine_paragraph hpackage)).append
    (leaves_code (codeLine_paragraph himports))
  have hdeclared := ((hhead.append (leaves_classComment h.tableEnd)).append
    (leaves_code hannotations)).append (leaves_code (List.forall_mem_singleton.mpr hclass))
  have hall := ((hdeclared.append hfields).append (leaves_code haccessors)).append
    (leaves_code (List.forall_mem_singleton.mpr hend))
  simp only [← physical_append, List.append_nil] at hall
  exact hall

/-- What the code of a class is made of is there without the comments. -/
theorem codeLines_uncommented (style : Style) (package : String) (e : Entity) :
    codeLines style package (uncommented e) = codeLines style package e := by
  have hkey : (uncommented e).primaryKey?.isSome = e.primaryKey?.isSome := by
    simp [Entity.primaryKey?, uncommented, List.find?_map, Function.comp_def, uncommentedField]
  have himports : imports style (uncommented e) = imports style e := by
    cases style with
    | pojo => rfl
    | lombok => rfl
    | jpa => simp only [imports, styleImports, hkey]; rfl
  have haccessors : (uncommented e).fields.flatMap accessorLines = e.fields.flatMap accessorLines :=
    List.flatMap_map _ _ _
  have hfields : (uncommented e).fields.flatMap (fun f => fieldLines style (uncommentedField f)) =
      e.fields.flatMap fun f => fieldLines style (uncommentedField f) :=
    List.flatMap_map _ _ _
  have hannotations : classAnnotations style (uncommented e) = classAnnotations style e := rfl
  rw [codeLines, codeLines, himports, haccessors, hfields, hannotations]
  rfl

/-- The names are there without the comments. -/
theorem plainNames_uncommented : PlainNames package (uncommented e) ↔ PlainNames package e := by
  constructor
  · intro h
    exact ⟨h.package, h.dependencies, h.name, h.table, h.tableEnd,
      fun f hf => h.field (uncommentedField f) (List.mem_map_of_mem hf),
      fun f hf => h.column (uncommentedField f) (List.mem_map_of_mem hf)⟩
  · intro h
    exact ⟨h.package, h.dependencies, h.name, h.table, h.tableEnd,
      List.forall_mem_map.mpr h.field, List.forall_mem_map.mpr h.column⟩

/-! ### Texts of classes -/

theorem renderEntity_of_style {storage : Storage.Tree} {o : Generation.Options}
    (h : o.templateFile = none) (e : Entity) :
    Generation.renderEntity storage o e = .ok (textOf (classLines o.style o.package e)) := by
  rw [Generation.renderEntity_eq (Generation.origin_of_style h storage)]
  rfl

/-- The comments of a class hold all that its text takes from the comment, the creator and the date
of a table and from the comments of its columns: the texts of two entities that differ in nothing
else are the same without their comments, and are then the code. -/
theorem withoutBlocks_renderEntity {storage : Storage.Tree} {o : Generation.Options}
    {e e' : Entity} (hstyle : o.templateFile = none) (hnames : PlainNames o.package e)
    (h : uncommented e = uncommented e') :
    ∃ text text', Generation.renderEntity storage o e = .ok text ∧
      Generation.renderEntity storage o e' = .ok text' ∧
      withoutBlocks text = withoutBlocks text' ∧
      withoutBlocks text = textOf (codeLines o.style o.package e) := by
  have hrender : ∀ e, Generation.renderEntity storage o e =
      .ok (textOf (classLines o.style o.package e)) := by
    intro e
    have horigin : o.origin storage = .ok (.style o.style) := by
      rw [Generation.Options.origin, hstyle]
      rfl
    rw [Generation.renderEntity_eq horigin]
    rfl
  have hnames' : PlainNames o.package e' := by
    rwa [← plainNames_uncommented, ← h, plainNames_uncommented]
  have hcode : withoutBlocks (textOf (classLines o.style o.package e)) =
      textOf (codeLines o.style o.package e) := withoutBlocks_textOf (leaves_classLines hnames)
  have hcode' : withoutBlocks (textOf (classLines o.style o.package e')) =
      textOf (codeLines o.style o.package e') := withoutBlocks_textOf (leaves_classLines hnames')
  refine ⟨_, _, hrender e, hrender e', ?_, hcode⟩
  rw [hcode, hcode', ← codeLines_uncommented, h, codeLines_uncommented]

/-- A table whose comments and creator try to end their blocks. -/
def hostileEntity : Entity :=
  { name := "Order"
    tableName := "t_order"
    comment := some "ends **// here\r\n*/\n/**\n */ static int a;"
    creator := some "x */\npublic class B \x7b\n/**"
    createDate := some ⟨-62167219201, 0⟩
    tableId := "o1"
    primaryKeyColId := some "o2"
    fields := [
      { entityName := "t_order", colId := "o2", colName := "id", name := "id", colType := "int"
        javaType := .integer, typeQualifiedName := none, colLength := none
        comment := some "*\n/ */ \x7d /*", mandatory := true, isPrimaryKey := true }]
    dependencies := .empty }

/-- What is left of its class is what is left without the comments. -/
theorem withoutBlocks_hostileEntity : ∃ text text',
    Generation.renderEntity {} { package := "shop", style := .lombok } hostileEntity = .ok text ∧
      Generation.renderEntity {} { package := "shop", style := .lombok }
        (uncommented hostileEntity) = .ok text' ∧
      withoutBlocks text = withoutBlocks text' ∧
      withoutBlocks text =
        "package shop;\n\nimport lombok.Data;\n\n@Data\npublic class Order \x7b\n" ++
          "\n    private Integer id;\n\x7d\n" := by
  have hnames : PlainNames "shop" hostileEntity :=
    ⟨by decide, by simp [hostileEntity, Model.NameSet.empty], by decide, by decide,
      by decide +kernel, List.forall_mem_singleton.mpr (by decide),
      List.forall_mem_singleton.mpr (by decide)⟩
  obtain ⟨text, text', htext, htext', hsame, hcode⟩ := @withoutBlocks_renderEntity {}
    { package := "shop", style := .lombok } hostileEntity (uncommented hostileEntity) rfl hnames rfl
  refine ⟨text, text', htext, htext', hsame, hcode.trans ?_⟩
  decide +kernel

end EntityForge.Java
