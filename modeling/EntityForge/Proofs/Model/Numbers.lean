import EntityForge.Proofs.Generation.CreationDates
import EntityForge.Proofs.Model.Defects

/-!
# Numbers in a document

A column can have a length and a table can have a second at which it was made. Both are written as
decimal numerals, and both are optional: an element without text, blanks aside, is as good as none.
A numeral is accepted if its number is in range and refused otherwise, however many digits it has,
and what is stored is the number itself. Any other text is refused as well, with the text and the
table in the error. These are the only errors about values, and they end the extraction where they
come first.
-/

namespace EntityForge.Model

open Calendar (Instant)
open Outcome
open Text (IsTrimmed SignedNumeral)
open Xml (Element)

/-! ### Texts of numbers -/

/-- A text is a length: a number of 32 bits without a minus sign. -/
def LengthText (text : String) (w : UInt32) : Prop :=
  ∃ n : Nat, (SignedNumeral n text.toList ∧ text.toList.head? ≠ some '-') ∧ n ≤ 4294967295 ∧
    w.toNat = n

/-- A text is a date: a number of 64 bits with a sign that counts the seconds from the start of 1970
to a second of the years from -262143 to 262142. -/
def DateText (text : String) (t : Instant) : Prop :=
  ∃ n : Int, SignedNumeral n text.toList ∧
    (-9223372036854775808 ≤ n ∧ n ≤ 9223372036854775807) ∧
    (-8334601228800 ≤ n ∧ n ≤ 8210266876799) ∧ t = ⟨n, 0⟩

theorem word32?_eq_some_iff (text : String) (w : UInt32) :
    Text.word32? text = some w ↔ LengthText text w := Text.word32?_eq_some

theorem creationDate?_eq_some_iff (text : String) (t : Instant) :
    creationDate? text = some t ↔ DateText text t := by
  rw [Generation.creationDate?_eq_some]
  simp only [Text.signed64?_eq_some, and_assoc, DateText]

/-- The texts of a length are its digits with any number of zeros in front, with a plus sign before
them or without. -/
theorem lengthText_iff {text : String} {w : UInt32} :
    LengthText text w ↔ ∃ zeros,
      text.toList = List.replicate zeros '0' ++ Nat.toDigits 10 w.toNat ∨
        text.toList = '+' :: List.replicate zeros '0' ++ Nat.toDigits 10 w.toNat := by
  constructor
  · rintro ⟨n, ⟨hsigned, hminus⟩, -, rfl⟩
    generalize hm : (w.toNat : Int) = m at hsigned
    generalize text.toList = cs at hsigned hminus
    cases hsigned with
    | unsigned h =>
      obtain ⟨zeros, rfl⟩ := Text.numeral_iff.mp h
      exact ⟨zeros, .inl (by rw [Int.ofNat_inj.mp hm])⟩
    | plus h =>
      obtain ⟨zeros, rfl⟩ := Text.numeral_iff.mp h
      exact ⟨zeros, .inr (by rw [Int.ofNat_inj.mp hm, List.cons_append])⟩
    | minus h => exact absurd rfl hminus
  · rintro ⟨zeros, htext | htext⟩
    · have h := Text.numeral_zeros zeros w.toNat
      rw [← htext] at h
      exact ⟨w.toNat, ⟨.unsigned h, h.head?_ne rfl⟩, Nat.le_of_lt_succ w.toNat_lt, rfl⟩
    · have h := Text.numeral_zeros zeros w.toNat
      refine ⟨w.toNat, ?_, Nat.le_of_lt_succ w.toNat_lt, rfl⟩
      rw [htext, List.cons_append]
      exact ⟨.plus h, nofun⟩

/-! ### Optional numbers -/

/-- What comes of the optional number in the first child of a name, in a table of a code. -/
inductive Yields {α : Type} (Means : String → α → Prop) (e : Element) (name code : String) :
    Except ExtractionError (Option α) → Prop
  /-- There is no such child. -/
  | absent : e.childText? name = none → Yields Means e name code (.ok none)
  /-- The text is blank. -/
  | blank {whole : String} : e.childText? name = some whole → IsTrimmed whole "" →
    Yields Means e name code (.ok none)
  /-- The text is that of a number, blanks aside. -/
  | accepted {whole text : String} {a : α} : e.childText? name = some whole →
    IsTrimmed whole text → text ≠ "" → Means text a → Yields Means e name code (.ok (some a))
  /-- The text is not blank and not that of a number. -/
  | refused {whole text : String} : e.childText? name = some whole → IsTrimmed whole text →
    text ≠ "" → (∀ a, ¬ Means text a) →
    Yields Means e name code (.error (.invalidValue name text code))

section

variable {α : Type} {read : String → Option α} {Means : String → α → Prop} {e : Element}
  {name code : String} {x : Except ExtractionError (Option α)}

theorem optionalText?_of_blank {whole : String} (htext : e.childText? name = some whole)
    (h : IsTrimmed whole "") : optionalText? e name = none := by
  rw [optionalText?, htext, Text.nonBlankOf, Option.bind_some, Text.nonBlank?,
    if_pos (Text.isTrimmed_iff.mp h)]

/-- Exactly one thing comes of an optional number: what the extraction makes of it. -/
theorem yields_iff (hread : ∀ text a, read text = some a ↔ Means text a) :
    Yields Means e name code x ↔ readOptional read e name code = x := by
  constructor
  · intro h
    rw [readOptional]
    cases h with
    | absent htext => rw [optionalText?, htext, Text.nonBlankOf, Option.bind_none]
    | blank htext hblank => rw [optionalText?_of_blank htext hblank]
    | accepted htext htrim hne hmeans =>
      rw [optionalText?_eq_some.mpr ⟨_, htext, Text.isTrimmed_iff.mp htrim, hne⟩]
      simp only [(hread _ _).mpr hmeans]
      rfl
    | @refused whole text htext htrim hne hnone =>
      have hrefused : read text = none :=
        Option.eq_none_iff_forall_ne_some.mpr fun a ha => hnone a ((hread text a).mp ha)
      rw [optionalText?_eq_some.mpr ⟨_, htext, Text.isTrimmed_iff.mp htrim, hne⟩]
      simp only [hrefused]
      rfl
  · rintro rfl
    rw [readOptional]
    cases htext : e.childText? name with
    | none =>
      rw [optionalText?, htext, Text.nonBlankOf, Option.bind_none]
      exact .absent htext
    | some whole =>
      have htrim : IsTrimmed whole (Text.trim whole) := Text.isTrimmed_iff.mpr rfl
      by_cases hblank : Text.trim whole = ""
      · rw [hblank] at htrim
        rw [optionalText?_of_blank htext htrim]
        exact .blank htext htrim
      · rw [optionalText?_eq_some.mpr ⟨whole, htext, rfl, hblank⟩]
        cases ha : read (Text.trim whole) with
        | none =>
          simp only [ha]
          refine .refused htext htrim hblank fun a hmeans => ?_
          rw [(hread _ _).mpr hmeans] at ha
          cases ha
        | some a =>
          simp only [ha]
          exact .accepted htext htrim hblank ((hread _ _).mp ha)

theorem existsUnique_yields (hread : ∀ text a, read text = some a ↔ Means text a) :
    ∃! x, Yields Means e name code x :=
  ⟨_, (yields_iff hread).mpr rfl, fun _ h => ((yields_iff hread).mp h).symm⟩

end

/-- What comes of the length of a column. -/
theorem yields_length_iff {column : Element} {code : String}
    {x : Except ExtractionError (Option UInt32)} :
    Yields LengthText column "Length" code x ↔
      readOptional Text.word32? column "Length" code = x :=
  yields_iff word32?_eq_some_iff

/-- What comes of the date of a table. -/
theorem yields_date_iff {table : Element} {code : String}
    {x : Except ExtractionError (Option Instant)} :
    Yields DateText table "CreationDate" code x ↔
      readOptional creationDate? table "CreationDate" code = x :=
  yields_iff creationDate?_eq_some_iff

/-! ### Blank numbers -/

/-- A column with a blank length gives what it gives without a length. -/
theorem fieldOfColumn_without {types : TypeTable} {table : String} {primaryKey : Option String}
    {column : Element} (h : Yields LengthText column "Length" table (.ok none)) :
    fieldOfColumn types table primaryKey column =
      fieldOfColumn types table primaryKey (column.without "Length") := by
  have hcode : "Code" ≠ "Length" := by decide
  have htype : "DataType" ≠ "Length" := by decide
  have hcomment : "Comment" ≠ "Length" := by decide
  have hmandatory : "Column.Mandatory" ≠ "Length" := by decide
  have hlength := yields_length_iff.mp h
  have hnone : readOptional Text.word32? (column.without "Length") "Length" table = .ok none :=
    yields_length_iff.mp (.absent Element.childText?_without_self)
  simp only [fieldOfColumn, hlength, hnone, Element.attribute?_without,
    Element.childText?_without hcode, Element.childText?_without htype,
    Element.childText?_without hcomment, Element.childText?_without hmandatory]

/-- A table without some children has the same key path if they are neither keys nor hold a primary
key. -/
theorem keyPath_without {table : Element} {name : String} (hkeys : "Keys" ≠ name)
    (hkey : "PrimaryKey" ≠ name)
    (hnone : ∀ c ∈ table.childrenNamed name, c.descendant? "PrimaryKey" = none) :
    keyPath (table.without name) = keyPath table := by
  simp only [keyPath, keyOfId?, Element.child?_without hkeys,
    Element.descendant?_without hkey hnone]

/-- A table with a blank date gives what it gives without a date, unless the date holds a primary
key. -/
theorem entityOfTable_without {naming : Naming} {types : TypeTable} {table : Element}
    {code : String} (h : Yields DateText table "CreationDate" code (.ok none))
    (hkey : ∀ c ∈ table.childrenNamed "CreationDate", c.descendant? "PrimaryKey" = none) :
    entityOfTable naming types table =
      entityOfTable naming types (table.without "CreationDate") := by
  have hcode : "Code" ≠ "CreationDate" := by decide
  have hcomment : "Comment" ≠ "CreationDate" := by decide
  have hcreator : "Creator" ≠ "CreationDate" := by decide
  have hcolumns : "Columns" ≠ "CreationDate" := by decide
  have hpath := keyPath_without (by decide) (by decide) hkey
  have hdate : ∀ code', readOptional creationDate? table "CreationDate" code' = .ok none := by
    intro code'
    apply yields_date_iff.mp
    cases h with
    | absent htext => exact .absent htext
    | blank htext hblank => exact .blank htext hblank
  have hnone : ∀ code', readOptional creationDate? (table.without "CreationDate") "CreationDate"
      code' = .ok none :=
    fun code' => yields_date_iff.mp (.absent Element.childText?_without_self)
  simp only [entityOfTable, hdate, hnone, hpath, Element.attribute?_without,
    Element.childText?_without hcode, Element.childText?_without hcomment,
    Element.childText?_without hcreator, Element.child?_without hcolumns]

/-! ### Reached numbers -/

theorem require_eq_error {α : Type} {error error' : ExtractionError} {o : Option α} :
    require error o = .error error' ↔ o = none ∧ error = error' := by
  cases o with
  | none => simp [require]
  | some a => simp [require]

/-- The extraction comes to the date of a table: all tables before it give entities, and the table
has a code and an identifier. -/
structure ComesToDate (naming : Naming) (types : TypeTable) (root table : Element) (code : String) :
    Prop where
  /-- All tables before it give entities. -/
  before : ∃ before after, HoldsTables root (before ++ table :: after) ∧
    ∀ t ∈ before, ∃ e, EntityOf naming types t e
  /-- The table has a code. -/
  tableCode : table.childText? "Code" = some code
  /-- The table has an identifier. -/
  tableId : ∃ id, table.attribute? "Id" = some id

/-- The extraction comes to the length of a column: it comes to the date of the table and passes it,
all columns before it give fields, and the column has all that a column must have. -/
structure ComesToLength (naming : Naming) (types : TypeTable) (root table : Element)
    (code : String) (column : Element) : Prop
    extends ComesToDate naming types root table code where
  /-- The date is absent, blank or accepted. -/
  date : ∃ date, Yields DateText table "CreationDate" code (.ok date)
  /-- All columns before it give fields. -/
  columns : ∃ columns before after, table.child? "Columns" = some columns ∧
    columns.childrenNamed "Column" = before ++ column :: after ∧
    ∀ c ∈ before, ∃ f, FieldOf types code (keyPath table).column? c f
  /-- The column has an identifier. -/
  colId : ∃ id, column.attribute? "Id" = some id
  /-- The column has a code. -/
  colName : ∃ name, column.childText? "Code" = some name
  /-- The column has a data type that is in the table of types. -/
  colType : ∃ colType javaType, column.childText? "DataType" = some colType ∧
    types.lookup colType = some javaType

/-- A number that the extraction comes to is refused with an error. -/
inductive RefusesNumber (naming : Naming) (types : TypeTable) (root : Element) :
    ExtractionError → Prop
  /-- It is the date of a table. -/
  | date {table : Element} {code : String} {error : ExtractionError} :
    ComesToDate naming types root table code →
    Yields DateText table "CreationDate" code (.error error) →
    RefusesNumber naming types root error
  /-- It is the length of a column. -/
  | length {table column : Element} {code : String} {error : ExtractionError} :
    ComesToLength naming types root table code column →
    Yields LengthText column "Length" code (.error error) →
    RefusesNumber naming types root error

/-- A column fails with an error about a value if it has all that it must have and its length is
refused. -/
theorem fieldOfColumn_eq_invalid {types : TypeTable} {code : String} {primaryKey : Option String}
    {column : Element} {name text table : String} :
    fieldOfColumn types code primaryKey column = .error (.invalidValue name text table) ↔
      (∃ id, column.attribute? "Id" = some id) ∧
      (∃ name, column.childText? "Code" = some name) ∧
      (∃ colType javaType, column.childText? "DataType" = some colType ∧
        types.lookup colType = some javaType) ∧
      Yields LengthText column "Length" code (.error (.invalidValue name text table)) := by
  rw [yields_length_iff]
  simp only [fieldOfColumn, bind_eq_error, require_eq_error, require_eq_ok, reduceCtorEq, and_false,
    false_or, pure, Except.pure, exists_const, or_false]
  constructor
  · rintro ⟨id, hid, colName, hname, colType, htype, javaType, hjava, hlength⟩
    exact ⟨⟨id, hid⟩, ⟨colName, hname⟩, ⟨colType, javaType, htype, hjava⟩, hlength⟩
  · rintro ⟨⟨id, hid⟩, ⟨colName, hname⟩, ⟨colType, javaType, htype, hjava⟩, hlength⟩
    exact ⟨id, hid, colName, hname, colType, htype, javaType, hjava, hlength⟩

/-- A table fails with an error about a value if its date is refused, or if it is not and the first
column that gives no field fails with that error. -/
theorem entityOfTable_eq_invalid {naming : Naming} {types : TypeTable} {table : Element}
    {name text code' : String} :
    entityOfTable naming types table = .error (.invalidValue name text code') ↔
      ∃ code, table.childText? "Code" = some code ∧ (∃ id, table.attribute? "Id" = some id) ∧
        (Yields DateText table "CreationDate" code (.error (.invalidValue name text code')) ∨
          (∃ date, Yields DateText table "CreationDate" code (.ok date)) ∧
            ∃ columns before column after, table.child? "Columns" = some columns ∧
              columns.childrenNamed "Column" = before ++ column :: after ∧
              (∀ c ∈ before, ∃ f, FieldOf types code (keyPath table).column? c f) ∧
              fieldOfColumn types code (keyPath table).column? column =
                .error (.invalidValue name text code')) := by
  simp only [yields_date_iff, entityOfTable, bind_eq_error, require_eq_error, require_eq_ok,
    mapM_eq_error, fieldOfColumn_eq_ok, reduceCtorEq, and_false, false_or, pure, Except.pure,
    exists_const, or_false]
  refine exists_congr fun code => and_congr_right fun _ => ?_
  constructor
  · rintro ⟨id, hid, hdate | ⟨date, hdate, columns, hchild, before, column, after, hcolumn⟩⟩
    · exact ⟨⟨id, hid⟩, .inl hdate⟩
    · exact ⟨⟨id, hid⟩, .inr ⟨⟨date, hdate⟩, columns, before, column, after, hchild, hcolumn⟩⟩
  · rintro ⟨⟨id, hid⟩, hdate | ⟨⟨date, hdate⟩, columns, before, column, after, hchild, hcolumn⟩⟩
    · exact ⟨id, hid, .inl hdate⟩
    · exact ⟨id, hid, .inr ⟨date, hdate, columns, hchild, before, column, after, hcolumn⟩⟩

/-- An extraction fails with an error about a value just where it comes to a number that is refused
with this error. -/
theorem entitiesOfDocument_eq_invalid {naming : Naming} {types : TypeTable} {root : Element}
    {name text code : String} :
    entitiesOfDocument naming types root = .error (.invalidValue name text code) ↔
      RefusesNumber naming types root (.invalidValue name text code) := by
  simp only [entitiesOfDocument, bind_eq_error, require_eq_error, require_eq_ok, mapM_eq_error,
    entityOfTable_eq_ok, Element.descendant?_eq_find?, reduceCtorEq, and_false, false_or]
  constructor
  · rintro ⟨holder, hholder, before, table, after, htables, hbefore, htable⟩
    obtain ⟨code', hcode, hid, hcase⟩ := entityOfTable_eq_invalid.mp htable
    have hcomes : ComesToDate naming types root table code' :=
      ⟨⟨before, after, ⟨holder, hholder, htables⟩, hbefore⟩, hcode, hid⟩
    rcases hcase with hdate | ⟨hdate, columns, front, column, rest, hchild, hsplit, hfront, hcolumn⟩
    · exact .date hcomes hdate
    · obtain ⟨hcolId, hcolName, hcolType, hlength⟩ := fieldOfColumn_eq_invalid.mp hcolumn
      exact .length ⟨hcomes, hdate, ⟨columns, front, rest, hchild, hsplit, hfront⟩, hcolId,
        hcolName, hcolType⟩ hlength
  · intro h
    have hfails : ∃ table code', ComesToDate naming types root table code' ∧
        entityOfTable naming types table = .error (.invalidValue name text code) := by
      cases h with
      | @date table code' _ hcomes hdate =>
        exact ⟨table, code', hcomes, entityOfTable_eq_invalid.mpr
          ⟨code', hcomes.tableCode, hcomes.tableId, .inl hdate⟩⟩
      | @length table column code' _ hcomes hlength =>
        obtain ⟨columns, before, after, hchild, hsplit, hbefore⟩ := hcomes.columns
        have hcolumn : fieldOfColumn types code' (keyPath table).column? column =
            .error (.invalidValue name text code) :=
          fieldOfColumn_eq_invalid.mpr ⟨hcomes.colId, hcomes.colName, hcomes.colType, hlength⟩
        exact ⟨table, code', hcomes.toComesToDate, entityOfTable_eq_invalid.mpr ⟨code',
          hcomes.tableCode, hcomes.tableId,
          .inr ⟨hcomes.date, columns, before, column, after, hchild, hsplit, hbefore, hcolumn⟩⟩⟩
    obtain ⟨table, code', ⟨⟨before, after, ⟨holder, hholder, htables⟩, hbefore⟩, -, -⟩, htable⟩ :=
      hfails
    exact ⟨holder, hholder, before, table, after, htables, hbefore, htable⟩

/-! ### Stored numbers -/

/-- The field of a column holds what comes of its length. -/
def HoldsLength (code : String) (column : Element) (f : Field) : Prop :=
  Yields LengthText column "Length" code (.ok f.colLength)

/-- The entity of a table holds what comes of its date, and its fields what comes of their
lengths. -/
def HoldsNumbers (table : Element) (e : Entity) : Prop :=
  ∃ code columns, table.childText? "Code" = some code ∧ table.child? "Columns" = some columns ∧
    Yields DateText table "CreationDate" code (.ok e.createDate) ∧
    List.Forall₂ (HoldsLength code) (columns.childrenNamed "Column") e.fields

theorem holdsNumbers_of_entityOf {naming : Naming} {types : TypeTable} {table : Element}
    {e : Entity} (h : EntityOf naming types table e) : HoldsNumbers table e := by
  obtain ⟨code, columns, hcode, hcolumns, -, -, hdate, hfields⟩ := h.code
  refine ⟨code, columns, hcode, hcolumns, yields_date_iff.mpr hdate, ?_⟩
  exact hfields.imp fun column f hfield => yields_length_iff.mpr hfield.colLength

/-- One thing comes of the text of a length and one of that of a date. An extraction that succeeds
stores what comes of them, and one that comes to a refused one fails with it; there are no other
errors about values. A blank length is as good as none, and so is a blank date. -/
theorem entitiesOfDocument_numbers (naming : Naming) (types : TypeTable) (root : Element) :
    (∀ e name code, (∃! x, Yields LengthText e name code x) ∧
      ∃! x, Yields DateText e name code x) ∧
    (∀ entities, entitiesOfDocument naming types root = .ok entities →
      ∃ tables, HoldsTables root tables ∧ List.Forall₂ HoldsNumbers tables entities) ∧
    (∀ name text code,
      entitiesOfDocument naming types root = .error (.invalidValue name text code) ↔
        RefusesNumber naming types root (.invalidValue name text code)) ∧
    (∀ code primaryKey column, Yields LengthText column "Length" code (.ok none) →
      fieldOfColumn types code primaryKey column =
        fieldOfColumn types code primaryKey (column.without "Length")) ∧
    ∀ code table, Yields DateText table "CreationDate" code (.ok none) →
      (∀ c ∈ table.childrenNamed "CreationDate", c.descendant? "PrimaryKey" = none) →
      entityOfTable naming types table =
        entityOfTable naming types (table.without "CreationDate") := by
  refine ⟨fun e name code => ⟨?_, ?_⟩, fun entities hentities => ?_,
    fun name text code => entitiesOfDocument_eq_invalid,
    fun code primaryKey column => fieldOfColumn_without,
    fun code table => entityOfTable_without⟩
  · exact existsUnique_yields word32?_eq_some_iff
  · exact existsUnique_yields creationDate?_eq_some_iff
  · obtain ⟨tables, htables, hfits⟩ := entitiesOfDocument_eq_ok.mp hentities
    exact ⟨tables, htables, hfits.imp fun table e => holdsNumbers_of_entityOf⟩

/-- A column of a length. -/
def sizedColumn (length : String) : Element :=
  ⟨"Column", [("Id", "o2")], [⟨"Code", [], [], "status"⟩, ⟨"DataType", [], [], "varchar(20)"⟩,
    ⟨"Length", [], [], length⟩], ""⟩

/-- A table of a date and one column of a length. -/
def sizedTable (date length : String) : Element :=
  ⟨"Table", [("Id", "o1")], [⟨"Code", [], [], "t_order"⟩, ⟨"CreationDate", [], [], date⟩,
    ⟨"Columns", [], [sizedColumn length], ""⟩], ""⟩

/-- A document of one table. -/
def sizedDocument (date length : String) : Element :=
  ⟨"Model", [], [⟨"Tables", [], [sizedTable date length], ""⟩], ""⟩

theorem comesToLength_sizedDocument {date : String} (length : String) {t : Option Instant}
    (hdate : readOptional creationDate? (sizedTable date length) "CreationDate" "t_order" = .ok t) :
    ComesToLength {} .standard (sizedDocument date length) (sizedTable date length) "t_order"
      (sizedColumn length) where
  before := ⟨[], [], ⟨_, rfl, rfl⟩, nofun⟩
  tableCode := rfl
  tableId := ⟨_, rfl⟩
  date := ⟨t, yields_date_iff.mpr hdate⟩
  columns := ⟨_, [], [], rfl, rfl, nofun⟩
  colId := ⟨_, rfl⟩
  colName := ⟨_, rfl⟩
  colType := ⟨_, .string, rfl, by decide +kernel⟩

theorem eq_of_holdsTables_sizedDocument {date length : String} {tables : List Element}
    (h : HoldsTables (sizedDocument date length) tables) : tables = [sizedTable date length] := by
  obtain ⟨holder, hholder, rfl⟩ := h
  cases hholder
  rfl

/-- The greatest length is stored, with a sign and zeros in front, and so is the date of minus zero;
the next length is refused, and so is the second before the first year. -/
theorem numbers_sizedDocument :
    (∃ e f, entitiesOfDocument {} .standard (sizedDocument "-0" "+004294967295") = .ok [e] ∧
      e.createDate = some ⟨0, 0⟩ ∧ e.fields = [f] ∧ f.colLength = some 4294967295) ∧
    entitiesOfDocument {} .standard (sizedDocument "-0" "4294967296") =
      .error (.invalidValue "Length" "4294967296" "t_order") ∧
    entitiesOfDocument {} .standard (sizedDocument "-8334601228801" "20") =
      .error (.invalidValue "CreationDate" "-8334601228801" "t_order") ∧
    fieldOfColumn .standard "t_order" none (sizedColumn " ") =
      fieldOfColumn .standard "t_order" none ((sizedColumn " ").without "Length") ∧
    entityOfTable {} .standard (sizedTable "" "20") =
      entityOfTable {} .standard ((sizedTable "" "20").without "CreationDate") := by
  have hspec := entitiesOfDocument_numbers {} .standard
  refine ⟨?_, ?_, ?_, ?_, ?_⟩
  · obtain ⟨hunique, hstored, -⟩ := hspec (sizedDocument "-0" "+004294967295")
    have hok : (entitiesOfDocument {} .standard (sizedDocument "-0" "+004294967295")).isOk =
        true := by decide +kernel
    have hdate : Yields DateText (sizedTable "-0" "+004294967295") "CreationDate" "t_order"
        (.ok (some ⟨0, 0⟩)) := yields_date_iff.mpr (by decide +kernel)
    have htext : LengthText "+004294967295" 4294967295 :=
      lengthText_iff.mpr ⟨2, .inr (by decide)⟩
    have hlength : Yields LengthText (sizedColumn "+004294967295") "Length" "t_order"
        (.ok (some 4294967295)) :=
      .accepted rfl (Text.isTrimmed_iff.mpr (by decide +kernel)) (by decide) htext
    cases h : entitiesOfDocument {} .standard (sizedDocument "-0" "+004294967295") with
    | error error =>
      rw [h] at hok
      cases hok
    | ok entities =>
      obtain ⟨tables, htables, hnumbers⟩ := hstored entities h
      obtain rfl := eq_of_holdsTables_sizedDocument htables
      obtain ⟨e, rest, ⟨code, columns, hcode, hcolumns, hcreated, hfields⟩, hrest, rfl⟩ :=
        List.forall₂_cons_left_iff.mp hnumbers
      cases hrest
      cases hcode
      cases hcolumns
      obtain ⟨f, rest, hsized, hrest, hfields⟩ := List.forall₂_cons_left_iff.mp hfields
      cases hrest
      refine ⟨e, f, rfl, ?_, hfields, ?_⟩
      · exact Except.ok.inj ((hunique _ _ _).2.unique hcreated hdate)
      · exact Except.ok.inj ((hunique _ _ _).1.unique hsized hlength)
  · refine ((hspec _).2.2.1 _ _ _).mpr (.length
      (comesToLength_sizedDocument "4294967296" (t := some ⟨0, 0⟩) (by decide +kernel)) ?_)
    exact yields_length_iff.mpr (by decide +kernel)
  · refine ((hspec _).2.2.1 _ _ _).mpr
      (.date ⟨⟨[], [], ⟨_, rfl, rfl⟩, nofun⟩, rfl, ⟨_, rfl⟩⟩ ?_)
    exact yields_date_iff.mpr (by decide +kernel)
  · refine (hspec (sizedDocument "" " ")).2.2.2.1 _ _ _ ?_
    exact yields_length_iff.mpr (by decide +kernel)
  · refine (hspec (sizedDocument "" "20")).2.2.2.2 "t_order" _ ?_ ?_
    · exact yields_date_iff.mpr (by decide +kernel)
    · exact List.forall_mem_singleton.mpr rfl

end EntityForge.Model
