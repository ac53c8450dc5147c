import EntityForge.Proofs.Generation.Conflicts
import EntityForge.Proofs.Generation.Containment
import EntityForge.Proofs.Java.Literals
import EntityForge.Proofs.Java.Skeleton

/-!
# Names in annotations

A mapped class has the name of its table and the names of its columns in string literals of its
annotations. The names are taken from a document and are written between the quotes as they are, so
a compiler reads a name back, up to the quote behind it, just where the name has no quote, no
backslash and no line end. Any other name stands for something else or breaks the class.
-/

namespace EntityForge.Java

open Model (Entity Field)

/-! ### Quoted text -/

/-- A text between quotes, and what stands in front of them and behind them in a source. -/
structure Quoted where
  /-- What stands in front. -/
  front : String
  /-- The text between the quotes. -/
  text : String
  /-- What stands behind. -/
  back : String

namespace Quoted

/-- The whole source. -/
def source (q : Quoted) : String := q.front ++ "\"" ++ q.text ++ "\"" ++ q.back

/-- From the quote in front of it on, the source reads as a string literal whose value is the text
and which ends at the quote behind it. -/
def ReadsBack (q : Quoted) : Prop :=
  stringLiteral? (codeUnits ("\"" ++ q.text ++ "\"" ++ q.back)) =
    some (codeUnits q.text, codeUnits q.back)

theorem codeUnits_append (a b : String) : codeUnits (a ++ b) = codeUnits a ++ codeUnits b := by
  rw [codeUnits, String.toList_append, List.flatMap_append]
  rfl

/-- What begins with neither a quote nor a backslash goes on as code units that do not either. -/
theorem head?_codeUnits {text : String} {c : Char} (hc : c.toNat < 0x80)
    (h : text.toList.head? ≠ some c) : ∀ u ∈ (codeUnits text).head?, u ≠ unit c := by
  rintro u hu rfl
  rw [codeUnits] at hu
  cases hchars : text.toList with
  | nil =>
    rw [hchars] at hu
    cases hu
  | cons d chars =>
    rw [hchars, List.flatMap_cons, List.head?_append_of_ne_nil] at hu
    · obtain rfl := (unit_mem_utf16 hc).mp (List.mem_of_head? hu)
      exact h (by rw [hchars, List.head?_cons])
    · rw [utf16]
      split_ifs <;> exact List.cons_ne_nil _ _

/-- A text reads back just where it is plain, unless another quote or an escape follows. -/
theorem readsBack_iff {q : Quoted} (hquote : q.back.toList.head? ≠ some '"')
    (hslash : q.back.toList.head? ≠ some '\\') : q.ReadsBack ↔ IsPlain q.text := by
  have hunits : codeUnits ("\"" ++ q.text ++ "\"" ++ q.back) =
      unit '"' :: (codeUnits q.text ++ unit '"' :: codeUnits q.back) := by
    have hone : codeUnits "\"" = [unit '"'] := by decide
    rw [codeUnits_append, codeUnits_append, codeUnits_append, hone, List.append_assoc,
      List.append_assoc, List.singleton_append, List.singleton_append]
  rw [ReadsBack, hunits, stringLiteral?_iff, plainUnits_codeUnits]
  exact fun u hu => ⟨head?_codeUnits (by decide) hquote u hu,
    head?_codeUnits (by decide) hslash u hu⟩

end Quoted

/-! ### Annotations -/

/-- The lines of a mapped class behind its fields. -/
def linesBehindColumns (e : Entity) : List String :=
  (if Style.jpa.hasAccessors then e.fields.flatMap accessorLines else []) ++ ["\x7d"]

/-- The name of the table in its annotation. -/
def quotedTable (package : String) (e : Entity) : Quoted where
  front := textOf (paragraph (if package = "" then [] else ["package " ++ package ++ ";"]) ++
    importLines (imports .jpa e).names ++ classComment e ++ ["@Entity"]) ++ "@Table(name = "
  text := e.tableName
  back := ")\n" ++ textOf (["public class " ++ e.name ++ " \x7b"] ++
    e.fields.flatMap (fieldLines .jpa) ++ linesBehindColumns e)

/-- The name of a column in the annotation of its field, which stands between other fields. -/
def quotedColumn (package : String) (e : Entity) (before : List Field) (f : Field)
    (after : List Field) : Quoted where
  front := textOf (linesBeforeFields .jpa package e ++ before.flatMap (fieldLines .jpa) ++ [""] ++
    fieldComment f ++ (if f.isPrimaryKey then [indent 1 ++ "@Id"] else [])) ++
    (indent 1 ++ "@Column(name = ")
  text := f.colName
  back := String.ofList (columnOptions f.colLength f.mandatory) ++ "\n" ++
    textOf ([fieldLine f] ++ after.flatMap (fieldLines .jpa) ++ linesBehindColumns e)

theorem textOf_singleton (line : String) : textOf [line] = line ++ "\n" := by
  rw [textOf, List.map_cons, List.map_nil, String.join_cons, String.join_nil, String.append_empty]

theorem source_quotedTable (package : String) (e : Entity) :
    (quotedTable package e).source = textOf (classLines .jpa package e) := by
  have hlines : classLines .jpa package e =
      (paragraph (if package = "" then [] else ["package " ++ package ++ ";"]) ++
        importLines (imports .jpa e).names ++ classComment e ++ ["@Entity"]) ++
      ["@Table(name = \"" ++ e.tableName ++ "\")"] ++
      (["public class " ++ e.name ++ " \x7b"] ++ e.fields.flatMap (fieldLines .jpa) ++
        linesBehindColumns e) := by
    simp only [classLines, importLines, classAnnotations, linesBehindColumns, List.append_assoc,
      List.cons_append, List.nil_append]
  have hopen : "@Table(name = \"" = "@Table(name = " ++ "\"" := rfl
  have hclose : "\")" = "\"" ++ ")" := rfl
  have hend : ")\n" = ")" ++ "\n" := rfl
  rw [hlines, textOf_append, textOf_append, textOf_singleton, hopen, hclose]
  simp only [quotedTable, Quoted.source, hend, String.append_assoc]

theorem source_quotedColumn (package : String) {e : Entity} {before after : List Field} {f : Field}
    (h : e.fields = before ++ f :: after) :
    (quotedColumn package e before f after).source = textOf (classLines .jpa package e) := by
  have hlines : classLines .jpa package e =
      (linesBeforeFields .jpa package e ++ before.flatMap (fieldLines .jpa) ++ [""] ++
        fieldComment f ++ (if f.isPrimaryKey then [indent 1 ++ "@Id"] else [])) ++
      [columnLine f] ++
      ([fieldLine f] ++ after.flatMap (fieldLines .jpa) ++ linesBehindColumns e) := by
    simp only [classLines, importLines, linesBeforeFields, linesBehindColumns, h, fieldLines,
      fieldAnnotations, columnLine, fieldLine, List.flatMap_append, List.flatMap_cons,
      List.append_assoc, List.cons_append, List.nil_append]
  have hcolumn : columnLine f = indent 1 ++ "@Column(name = " ++ "\"" ++ f.colName ++ "\"" ++
      String.ofList (columnOptions f.colLength f.mandatory) := by
    refine String.toList_inj.mp ?_
    simp only [columnLine, columnOptions, String.toList_append, String.toList_ofList,
      List.append_assoc]
    rfl
  rw [hlines, textOf_append, textOf_append, textOf_singleton, hcolumn]
  simp only [quotedColumn, Quoted.source, String.append_assoc]

theorem readsBack_quotedTable (package : String) (e : Entity) :
    (quotedTable package e).ReadsBack ↔ IsPlain e.tableName :=
  Quoted.readsBack_iff (by simp [quotedTable]) (by simp [quotedTable])

theorem readsBack_quotedColumn (package : String) (e : Entity) (before : List Field) (f : Field)
    (after : List Field) :
    (quotedColumn package e before f after).ReadsBack ↔ IsPlain f.colName := by
  have hhead : (quotedColumn package e before f after).back.toList.head? = some ',' ∨
      (quotedColumn package e before f after).back.toList.head? = some ')' := by
    rw [quotedColumn, String.toList_append, String.toList_append, String.toList_ofList,
      columnOptions]
    cases f.colLength with
    | none => cases f.mandatory <;> simp
    | some n =>
      have hlength : (s!", length = {n}").toList = ", length = ".toList ++ (toString n).toList := by
        rw [← String.toList_append]
        rfl
      rw [Option.elim_some, hlength]
      exact .inl rfl
  refine Quoted.readsBack_iff ?_ ?_
  · rcases hhead with hhead | hhead <;> rw [hhead] <;> decide
  · rcases hhead with hhead | hhead <;> rw [hhead] <;> decide

/-- In the text of a mapped class the name of the table and the name of each column are read back
from their annotations, up to the quote that was written behind them, just where they are plain. -/
theorem readsBack_iff_of_renderEntity {storage : Storage.Tree} {o : Generation.Options}
    (hstyle : o.templateFile = none) (hjpa : o.style = .jpa) (e : Entity) :
    ∃ text, Generation.renderEntity storage o e = .ok text ∧
      (quotedTable o.package e).source = text ∧
      ((quotedTable o.package e).ReadsBack ↔ IsPlain e.tableName) ∧
      ∀ before f after, e.fields = before ++ f :: after →
        (quotedColumn o.package e before f after).source = text ∧
        ((quotedColumn o.package e before f after).ReadsBack ↔ IsPlain f.colName) := by
  refine ⟨_, renderEntity_of_style hstyle e, ?_, readsBack_quotedTable o.package e, ?_⟩
  · rw [hjpa, source_quotedTable]
  · intro before f after hfields
    exact ⟨by rw [hjpa, source_quotedColumn o.package hfields],
      readsBack_quotedColumn o.package e before f after⟩

/-- The names of an ordinary table and of its columns are read back. -/
theorem readsBack_crowdedEntity :
    ∃ text, Generation.renderEntity {} { style := .jpa } (Generation.crowdedEntity "B") = .ok text ∧
      (quotedTable "" (Generation.crowdedEntity "B")).source = text ∧
      (quotedTable "" (Generation.crowdedEntity "B")).ReadsBack ∧
      ∀ before f after, (Generation.crowdedEntity "B").fields = before ++ f :: after →
        (quotedColumn "" (Generation.crowdedEntity "B") before f after).ReadsBack := by
  obtain ⟨text, htext, hsource, htable, hcolumns⟩ := @readsBack_iff_of_renderEntity {}
    { style := .jpa } rfl rfl (Generation.crowdedEntity "B")
  have hplain : ∀ f ∈ (Generation.crowdedEntity "B").fields, IsPlain f.colName := by decide +kernel
  refine ⟨text, htext, hsource, htable.mpr (by decide +kernel), fun before f after hfields => ?_⟩
  have hmem : f ∈ (Generation.crowdedEntity "B").fields := by
    rw [hfields]
    exact List.mem_append_right before List.mem_cons_self
  exact (hcolumns before f after hfields).2.mpr (hplain f hmem)

/-- A code with quotes in it is accepted, and in the annotation of its table the literal ends at the
first of them. -/
theorem not_readsBack_quotedCode :
    Model.loadText {} (Generation.codedDocument "\"order\"") =
        .ok [Generation.codedEntity "\"order\""] ∧
      ∃ text, Generation.renderEntity {} { style := .jpa }
          (Generation.codedEntity "\"order\"") = .ok text ∧
        (quotedTable "" (Generation.codedEntity "\"order\"")).source = text ∧
        ¬ (quotedTable "" (Generation.codedEntity "\"order\"")).ReadsBack := by
  have hparse : Xml.parseDocument (Generation.codedDocument "\"order\"") =
      .ok (Generation.codedRoot "\"order\"") := by
    rw [Generation.codedDocument, Xml.parseDocument_of_toList String.toList_join (by decide +kernel)]
    decide +kernel
  refine ⟨Generation.loadText_codedDocument hparse, _, renderEntity_of_style rfl _,
    source_quotedTable "" _, fun hreads => ?_⟩
  exact absurd ((readsBack_quotedTable "" _).mp hreads) (by decide +kernel)

end EntityForge.Java
