import EntityForge.Proofs.Java.Imports
import EntityForge.Proofs.Java.Packages

/-!
# What the text of a class tells

Whatever its comments say, the text of a class tells what the class declares: its name, what it
imports, the types and names of its fields in order, and for a mapped class the table and all that
the columns are annotated with. The comments are blocks that can be taken out, and what is left is
read line by line: each line of code tells what it was written from.
-/

namespace EntityForge.Java

open Model (Entity Field JavaType)

/-! ### Identifiers -/

theorem single_of_isIdentifier {s : String} (h : isIdentifier s = true) : '\n' ∉ s.toList :=
  not_mem_of_isIdentifier h (by decide) (by decide)

/-- A name made of identifiers with dots between them. -/
def IsQualified (name : String) : Prop :=
  ∀ s ∈ segments name, isIdentifier s = true

instance (name : String) : Decidable (IsQualified name) := inferInstanceAs (Decidable (∀ _ ∈ _, _))

theorem single_of_isQualified {name : String} (h : IsQualified name) : '\n' ∉ name.toList := by
  intro hmem
  have hpieces : '\n' ∈ (name.toList.splitOnP (· == '.')).flatten := by
    rw [Text.flatten_splitOnP]
    exact List.mem_filter.mpr ⟨hmem, by decide⟩
  obtain ⟨piece, hpiece, hin⟩ := List.mem_flatten.mp hpieces
  have hidentifier := h (String.ofList piece) (List.mem_map_of_mem hpiece)
  refine single_of_isIdentifier hidentifier ?_
  rwa [String.toList_ofList]

/-- The names of an entity are fit for a class: nothing is asked of what comments show. -/
structure FitNames (e : Entity) : Prop where
  /-- The class is named by an identifier. -/
  name : isIdentifier e.name = true
  /-- So are the fields. -/
  field : ∀ f ∈ e.fields, isIdentifier f.name = true
  /-- The dependencies are qualified names. -/
  dependency : ∀ name ∈ e.dependencies.names, IsQualified name
  /-- The name of the table is on one line. -/
  table : '\n' ∉ e.tableName.toList
  /-- It does not end a comment. -/
  tableEnd : EndFree e.tableName.toList
  /-- The names of the columns are on one line. -/
  column : ∀ f ∈ e.fields, '\n' ∉ f.colName.toList
  /-- They hold no quotation mark. -/
  quote : ∀ f ∈ e.fields, '"' ∉ f.colName.toList

theorem FitNames.plainNames {e : Entity} (h : FitNames e) : PlainNames "" e :=
  ⟨by decide, fun name hname => single_of_isQualified (h.dependency name hname),
    single_of_isIdentifier h.name, h.table, h.tableEnd,
    fun f hf => single_of_isIdentifier (h.field f hf), h.column⟩

/-! ### Skeletons -/

/-- Two fields are declared alike in classes of a style. -/
structure SameField (style : Style) (f f' : Field) : Prop where
  /-- They have the same type. -/
  javaType : f.javaType = f'.javaType
  /-- They have the same name. -/
  name : f.name = f'.name
  /-- In mapped classes they have the same column, with the same annotations. -/
  column : style = .jpa → f.colName = f'.colName ∧ f.colLength = f'.colLength ∧
    f.mandatory = f'.mandatory ∧ f.isPrimaryKey = f'.isPrimaryKey

/-- Two entities are declared alike in classes of a style. -/
structure SameSkeleton (style : Style) (e e' : Entity) : Prop where
  /-- The classes have the same name. -/
  name : e.name = e'.name
  /-- The style imports the same for them. -/
  own : styleImports style e = styleImports style e'
  /-- Beyond that they have the same dependencies. -/
  dependencies : ∀ name, name ∉ styleImports style e →
    (name ∈ e.dependencies.names ↔ name ∈ e'.dependencies.names)
  /-- They have as many fields, each declared alike. -/
  fields : List.Forall₂ (SameField style) e.fields e'.fields
  /-- In mapped classes they have the same table. -/
  table : style = .jpa → e.tableName = e'.tableName

variable {style : Style} {e e' : Entity} {f f' : Field}

/-! ### Lines of code -/

/-- The texts between the same two texts. -/
theorem between_inj {front text text' back : String}
    (h : front ++ text ++ back = front ++ text' ++ back) : text = text' := by
  have hlist := congrArg String.toList h
  simp only [String.toList_append, List.append_assoc, List.append_cancel_left_eq,
    List.append_cancel_right_eq] at hlist
  exact String.toList_inj.mp hlist

theorem simpleName_inj {t t' : JavaType} (h : t.simpleName = t'.simpleName) : t = t' := by
  have hname := JavaType.ofName?_simpleName t
  rw [h, JavaType.ofName?_simpleName] at hname
  exact (Option.some.inj hname).symm

/-- The line that declares a field. -/
def fieldLine (f : Field) : String :=
  indent 1 ++ "private " ++ f.javaType.simpleName ++ " " ++ f.name ++ ";"

/-- A declaration tells the type and the name of the field. -/
theorem fieldLine_inj (h : fieldLine f = fieldLine f') :
    f.javaType = f'.javaType ∧ f.name = f'.name := by
  have hblank : ∀ t : JavaType, ' ' ∉ t.simpleName.toList := by
    intro t
    cases t <;> decide
  have hlist := congrArg String.toList h
  have hspace : " ".toList = [' '] := rfl
  simp only [fieldLine, String.toList_append, List.append_assoc, List.append_cancel_left_eq, hspace,
    List.singleton_append] at hlist
  obtain ⟨htype, hname⟩ := Text.append_cons_inj (hblank _) (hblank _) hlist
  exact ⟨simpleName_inj (String.toList_inj.mp htype),
    String.toList_inj.mp (List.append_cancel_right hname)⟩

/-- The options of a column, behind its name. -/
def columnOptions (length : Option UInt32) (mandatory : Bool) : List Char :=
  (length.elim "" fun n => s!", length = {n}").toList ++
    (if mandatory then ", nullable = false" else "").toList ++ [')']

/-- The digits of a number end where something else follows. -/
theorem toString_append_inj {n n' : UInt32} {rest rest' : List Char}
    (hrest : Text.Ends Char.isDigit rest) (hrest' : Text.Ends Char.isDigit rest')
    (h : (toString n).toList ++ rest = (toString n').toList ++ rest') : n = n' ∧ rest = rest' := by
  have hdigits : ∀ m : UInt32, Text.Numeral m.toNat (toString m).toList := by
    intro m
    have htext : toString m = Nat.repr m.toNat := rfl
    rw [htext, Nat.toList_repr]
    exact Text.numeral_toDigits m.toNat
  have htake := congrArg (List.takeWhile Char.isDigit) h
  rw [Text.takeWhile_append_of_ends (hdigits n).isDigit hrest,
    Text.takeWhile_append_of_ends (hdigits n').isDigit hrest'] at htake
  rw [htake, List.append_cancel_left_eq] at h
  have hvalue := (hdigits n).value
  rw [htake, (hdigits n').value] at hvalue
  exact ⟨UInt32.toNat_inj.mp hvalue.symm, h⟩

theorem mandatory_inj {mandatory mandatory' : Bool}
    (h : (if mandatory then ", nullable = false" else "").toList ++ [')'] =
      (if mandatory' then ", nullable = false" else "").toList ++ [')']) :
    mandatory = mandatory' := by
  cases mandatory <;> cases mandatory' <;> first | rfl | cases h

theorem columnOptions_inj {length length' : Option UInt32} {mandatory mandatory' : Bool}
    (h : columnOptions length mandatory = columnOptions length' mandatory') :
    length = length' ∧ mandatory = mandatory' := by
  have hends : ∀ mandatory : Bool, Text.Ends Char.isDigit
      ((if mandatory then ", nullable = false" else "").toList ++ [')']) := by
    intro mandatory
    cases mandatory <;> exact Text.ends_cons _ (by decide)
  have hsome : ∀ (n : UInt32) (mandatory : Bool), columnOptions (some n) mandatory =
      ", length = ".toList ++ ((toString n).toList ++
        ((if mandatory then ", nullable = false" else "").toList ++ [')'])) := by
    intro n mandatory
    rw [← List.append_assoc, ← List.append_assoc, ← String.toList_append]
    rfl
  have hnone : ∀ mandatory : Bool, columnOptions none mandatory =
      (if mandatory then ", nullable = false" else "").toList ++ [')'] := fun _ => rfl
  cases length with
  | none =>
    cases length' with
    | none =>
      rw [hnone, hnone] at h
      exact ⟨rfl, mandatory_inj h⟩
    | some n' =>
      rw [hnone, hsome] at h
      cases mandatory <;> cases h
  | some n =>
    cases length' with
    | none =>
      rw [hnone, hsome] at h
      cases mandatory' <;> cases h
    | some n' =>
      rw [hsome, hsome, List.append_cancel_left_eq] at h
      obtain ⟨rfl, hrest⟩ := toString_append_inj (hends mandatory) (hends mandatory') h
      exact ⟨rfl, mandatory_inj hrest⟩

/-- The line that annotates a field with its column. -/
def columnLine (f : Field) : String :=
  indent 1 ++ "@Column(name = \"" ++ f.colName ++ "\"" ++
    (f.colLength.elim "" fun n => s!", length = {n}") ++
    (if f.mandatory then ", nullable = false" else "") ++ ")"

/-- The annotation tells the column, for names without quotation marks. -/
theorem columnLine_inj (hquote : '"' ∉ f.colName.toList) (hquote' : '"' ∉ f'.colName.toList)
    (h : columnLine f = columnLine f') :
    f.colName = f'.colName ∧ f.colLength = f'.colLength ∧ f.mandatory = f'.mandatory := by
  have hshape : ∀ f, (columnLine f).toList = (indent 1 ++ "@Column(name = \"").toList ++
      (f.colName.toList ++ '"' :: columnOptions f.colLength f.mandatory) := by
    intro f
    simp only [columnLine, columnOptions, String.toList_append, List.append_assoc]
    rfl
  have hlist := congrArg String.toList h
  rw [hshape, hshape, List.append_cancel_left_eq] at hlist
  obtain ⟨hname, hoptions⟩ := Text.append_cons_inj hquote hquote' hlist
  exact ⟨String.toList_inj.mp hname, columnOptions_inj hoptions⟩

/-! ### Fields -/

theorem fieldLines_jpa (f : Field) :
    fieldLines .jpa (uncommentedField f) =
      "" :: ((if f.isPrimaryKey then [indent 1 ++ "@Id"] else []) ++
        [columnLine f, fieldLine f]) := by
  have hcomment : fieldComment (uncommentedField f) = [] := rfl
  rw [fieldLines, hcomment, List.append_nil, fieldAnnotations, List.append_assoc,
    List.append_assoc]
  rfl

theorem fieldLines_plain (hstyle : style ≠ .jpa) (f : Field) :
    fieldLines style (uncommentedField f) = ["", fieldLine f] := by
  cases style with
  | jpa => exact absurd rfl hstyle
  | pojo => rfl
  | lombok => rfl

theorem id_ne_columnLine (f : Field) : indent 1 ++ "@Id" ≠ columnLine f := by
  intro h
  have hlist := congrArg String.toList h
  simp [columnLine] at hlist

/-- The lines of a field tell what it is declared as and where they end. -/
theorem fieldLines_append_inj (hquote : '"' ∉ f.colName.toList) (hquote' : '"' ∉ f'.colName.toList)
    {rest rest' : List String}
    (h : fieldLines style (uncommentedField f) ++ rest =
      fieldLines style (uncommentedField f') ++ rest') :
    SameField style f f' ∧ rest = rest' := by
  by_cases hstyle : style = .jpa
  · subst hstyle
    rw [fieldLines_jpa, fieldLines_jpa, List.cons_append, List.cons_append, List.cons.injEq] at h
    have hkey : f.isPrimaryKey = f'.isPrimaryKey := by
      cases hf : f.isPrimaryKey <;> cases hf' : f'.isPrimaryKey
      · rfl
      · simp only [hf, hf'] at h
        exact absurd (List.cons.inj h.2).1.symm (id_ne_columnLine f)
      · simp only [hf, hf'] at h
        exact absurd (List.cons.inj h.2).1 (id_ne_columnLine f')
      · rfl
    rw [hkey, List.append_assoc, List.append_assoc, List.append_cancel_left_eq] at h
    simp only [List.cons_append, List.nil_append, List.cons.injEq, true_and] at h
    obtain ⟨hcolumn, hdeclared, hrest⟩ := h
    obtain ⟨hname, hlength, hmandatory⟩ := columnLine_inj hquote hquote' hcolumn
    obtain ⟨htype, hfield⟩ := fieldLine_inj hdeclared
    exact ⟨⟨htype, hfield, fun _ => ⟨hname, hlength, hmandatory, hkey⟩⟩, hrest⟩
  · rw [fieldLines_plain hstyle, fieldLines_plain hstyle] at h
    simp only [List.cons_append, List.nil_append, List.cons.injEq, true_and] at h
    obtain ⟨htype, hname⟩ := fieldLine_inj h.1
    exact ⟨⟨htype, hname, fun hjpa => absurd hjpa hstyle⟩, h.2⟩

/-- Whether lines go on with a field: behind an empty line there is one that declares no
accessor. -/
def startsField : List String → Bool
  | _ :: line :: _ => !(indent 1 ++ "public ").toList.isPrefixOf line.toList
  | _ => false

/-- What follows the fields in a class. -/
def linesBehindFields (style : Style) (fields : List Field) : List String :=
  (if style.hasAccessors then fields.flatMap accessorLines else []) ++ ["\x7d"]

theorem startsField_fieldLines (style : Style) (f : Field) (rest : List String) :
    startsField (fieldLines style (uncommentedField f) ++ rest) = true := by
  have hfield : (indent 1 ++ "public ").toList.isPrefixOf (fieldLine f).toList = false := by
    simp [fieldLine, indent, List.isPrefixOf]
  have hcolumn : (indent 1 ++ "public ").toList.isPrefixOf (columnLine f).toList = false := by
    simp [columnLine, indent, List.isPrefixOf]
  by_cases hstyle : style = .jpa
  · rw [hstyle, fieldLines_jpa]
    cases f.isPrimaryKey with
    | true => rfl
    | false => simp only [startsField, List.cons_append, List.nil_append, Bool.false_eq_true,
        if_false, hcolumn, Bool.not_false]
  · rw [fieldLines_plain hstyle, List.cons_append, List.cons_append, startsField, hfield]
    rfl

theorem startsField_linesBehindFields (style : Style) (fields : List Field) :
    startsField (linesBehindFields style fields) = false := by
  have haccessor : ∀ f : Field, (indent 1 ++ "public ").toList.isPrefixOf
      (indent 1 ++ "public " ++ f.javaType.simpleName ++ " get" ++ accessorSuffix f.name ++
        "() \x7b").toList = true := by
    intro f
    simp only [String.append_assoc, String.toList_append]
    simp [indent]
  rw [linesBehindFields]
  split_ifs
  · cases fields with
    | nil => rfl
    | cons f fields =>
      rw [List.flatMap_cons, accessorLines, List.append_assoc, List.cons_append, List.cons_append,
        startsField, haccessor]
      rfl
  · rfl

/-- The lines of the fields of a class tell what they are declared as. -/
theorem sameFields_of_append {fields fields' : List Field}
    (hquote : ∀ f ∈ fields, '"' ∉ f.colName.toList)
    (hquote' : ∀ f ∈ fields', '"' ∉ f.colName.toList) {rest rest' : List String}
    (hrest : startsField rest = false) (hrest' : startsField rest' = false)
    (h : fields.flatMap (fun f => fieldLines style (uncommentedField f)) ++ rest =
      fields'.flatMap (fun f => fieldLines style (uncommentedField f)) ++ rest') :
    List.Forall₂ (SameField style) fields fields' := by
  induction fields generalizing fields' with
  | nil =>
    cases fields' with
    | nil => exact .nil
    | cons f' fields' =>
      rw [List.flatMap_nil, List.nil_append, List.flatMap_cons, List.append_assoc] at h
      rw [h, startsField_fieldLines] at hrest
      cases hrest
  | cons f fields ih =>
    obtain ⟨hf, hfields⟩ := List.forall_mem_cons.mp hquote
    cases fields' with
    | nil =>
      rw [List.flatMap_nil, List.nil_append, List.flatMap_cons, List.append_assoc] at h
      rw [← h, startsField_fieldLines] at hrest'
      cases hrest'
    | cons f' fields' =>
      obtain ⟨hf', hfields'⟩ := List.forall_mem_cons.mp hquote'
      rw [List.flatMap_cons, List.flatMap_cons, List.append_assoc, List.append_assoc] at h
      obtain ⟨hsame, hmore⟩ := fieldLines_append_inj hf hf' h
      exact .cons hsame (ih hfields hfields' hmore)

/-! ### Imports and the head of the class -/

/-- Whether a line imports a name. -/
def isImport (line : String) : Bool :=
  "import ".toList.isPrefixOf line.toList

/-- Lines begin with no import. -/
def Importless (lines : List String) : Prop :=
  ∀ line ∈ lines.head?, isImport line = false

theorem takeWhile_importLines (names : List String) {rest : List String} (hrest : Importless rest) :
    (importLines names ++ rest).takeWhile isImport =
      names.map fun name => "import " ++ name ++ ";" := by
  have himport : ∀ line ∈ names.map fun name => "import " ++ name ++ ";", isImport line = true := by
    intro line hline
    obtain ⟨name, -, rfl⟩ := List.mem_map.mp hline
    simp [isImport]
  rw [importLines, paragraph]
  cases names with
  | nil =>
    cases rest with
    | nil => rfl
    | cons line rest => exact List.takeWhile_cons_of_neg (by simp [hrest line rfl])
  | cons name names =>
    rw [if_neg (by simp), List.append_assoc, List.takeWhile_append_of_pos himport,
      List.singleton_append, List.takeWhile_cons_of_neg (by decide), List.append_nil]

/-- The lines of imports tell the names. -/
theorem importLines_append_inj {names names' rest rest' : List String} (hrest : Importless rest)
    (hrest' : Importless rest') (h : importLines names ++ rest = importLines names' ++ rest') :
    names = names' ∧ rest = rest' := by
  have htake := congrArg (List.takeWhile isImport) h
  rw [takeWhile_importLines names hrest, takeWhile_importLines names' hrest'] at htake
  obtain rfl := List.map_injective_iff.mpr (fun _ _ => between_inj) htake
  exact ⟨rfl, List.append_cancel_left h⟩

/-- The head of a class with its annotations. -/
def headLines (style : Style) (e : Entity) : List String :=
  classAnnotations style e ++ ["public class " ++ e.name ++ " \x7b"]

theorem codeLines_eq (style : Style) (e : Entity) :
    codeLines style "" e = importLines (imports style e).names ++ (headLines style e ++
      (e.fields.flatMap (fun f => fieldLines style (uncommentedField f)) ++
        linesBehindFields style e.fields)) := by
  simp [codeLines, importLines, headLines, linesBehindFields, paragraph]

theorem importless_headLines (style : Style) (e : Entity) (rest : List String) :
    Importless (headLines style e ++ rest) := by
  cases style with
  | pojo => simp [Importless, headLines, classAnnotations, isImport, List.isPrefixOf]
  | lombok => simp [Importless, headLines, classAnnotations, isImport, List.isPrefixOf]
  | jpa => simp [Importless, headLines, classAnnotations, isImport, List.isPrefixOf]

/-- The head of a class tells its name and, in a mapped class, the table. -/
theorem headLines_append_inj {rest rest' : List String}
    (h : headLines style e ++ rest = headLines style e' ++ rest') :
    e.name = e'.name ∧ (style = .jpa → e.tableName = e'.tableName) ∧ rest = rest' := by
  cases style with
  | pojo =>
    obtain ⟨hname, hrest⟩ := List.cons.inj h
    exact ⟨between_inj hname, nofun, hrest⟩
  | lombok =>
    obtain ⟨hname, hrest⟩ := List.cons.inj (List.cons.inj h).2
    exact ⟨between_inj hname, nofun, hrest⟩
  | jpa =>
    obtain ⟨htable, h⟩ := List.cons.inj (List.cons.inj h).2
    obtain ⟨hname, hrest⟩ := List.cons.inj h
    exact ⟨between_inj hname, fun _ => between_inj htable, hrest⟩

/-! ### Classes -/

/-- The style imports the same where the same fields are keys. -/
theorem styleImports_of_sameFields (h : List.Forall₂ (SameField style) e.fields e'.fields) :
    styleImports style e = styleImports style e' := by
  cases style with
  | pojo => rfl
  | lombok => rfl
  | jpa =>
    have hkey : e.primaryKey?.isSome = e'.primaryKey?.isSome := by
      rw [Entity.primaryKey?, Entity.primaryKey?, Bool.eq_iff_iff, List.find?_isSome,
        List.find?_isSome]
      constructor
      · rintro ⟨f, hf, hkey⟩
        obtain ⟨f', hf', hsame⟩ := Outcome.exists_right_of_forall₂ h hf
        exact ⟨f', hf', (hsame.column rfl).2.2.2 ▸ hkey⟩
      · rintro ⟨f', hf', hkey⟩
        obtain ⟨f, hf, hsame⟩ := Outcome.exists_left_of_forall₂ h hf'
        exact ⟨f, hf, (hsame.column rfl).2.2.2 ▸ hkey⟩
    rw [styleImports, styleImports, hkey]

theorem sameSkeleton_of_codeLines (hquote : ∀ f ∈ e.fields, '"' ∉ f.colName.toList)
    (hquote' : ∀ f ∈ e'.fields, '"' ∉ f.colName.toList)
    (h : codeLines style "" e = codeLines style "" e') : SameSkeleton style e e' := by
  rw [codeLines_eq, codeLines_eq] at h
  obtain ⟨himports, h⟩ := importLines_append_inj (importless_headLines style e _)
    (importless_headLines style e' _) h
  obtain ⟨hname, htable, h⟩ := headLines_append_inj h
  have hfields := sameFields_of_append hquote hquote' (startsField_linesBehindFields style e.fields)
    (startsField_linesBehindFields style e'.fields) h
  have hown := styleImports_of_sameFields hfields
  refine ⟨hname, hown, fun name hforeign => ?_, hfields, htable⟩
  have hforeign' : name ∉ styleImports style e' := hown ▸ hforeign
  have hmem : name ∈ (imports style e).names ↔ name ∈ e.dependencies.names :=
    mem_imports.trans (or_iff_left hforeign)
  have hmem' : name ∈ (imports style e').names ↔ name ∈ e'.dependencies.names :=
    mem_imports.trans (or_iff_left hforeign')
  rw [← hmem, ← hmem', himports]

/-- No line of code goes on in another line. -/
theorem single_codeLines (h : PlainNames "" e) :
    ∀ line ∈ codeLines style "" e, '\n' ∉ line.toList := by
  have hclass : CodeStart "public class " := ⟨by decide, by decide⟩
  have hfields : ∀ line ∈ e.fields.flatMap (fun f => fieldLines style (uncommentedField f)),
      CodeLine line := by
    intro line hline
    obtain ⟨f, hf, hline⟩ := List.mem_flatMap.mp hline
    have hcode : ∀ line ∈ fieldAnnotations style f, CodeLine line :=
      codeLine_fieldAnnotations (h.column f hf)
    have hdeclared := List.forall_mem_singleton.mpr (codeLine_declaration (h.field f hf))
    have hall := List.forall_mem_append.mpr ⟨List.forall_mem_append.mpr
      ⟨List.forall_mem_singleton.mpr codeLine_empty, hcode⟩, hdeclared⟩
    exact hall line hline
  have haccessors : ∀ line ∈ linesBehindFields style e.fields, CodeLine line := by
    refine List.forall_mem_append.mpr ⟨?_, List.forall_mem_singleton.mpr ⟨by decide, by decide⟩⟩
    split_ifs
    · intro line hline
      obtain ⟨f, hf, hline⟩ := List.mem_flatMap.mp hline
      exact codeLine_accessorLines (h.field f hf) line hline
    · simp
  have hhead : ∀ line ∈ headLines style e, CodeLine line :=
    List.forall_mem_append.mpr ⟨codeLine_classAnnotations h.table,
      List.forall_mem_singleton.mpr ((hclass.append h.name).append (by decide)).codeLine⟩
  have himports : ∀ line ∈ importLines (imports style e).names, CodeLine line :=
    codeLine_paragraph (codeLine_imports h)
  have hall := List.forall_mem_append.mpr ⟨himports,
    List.forall_mem_append.mpr ⟨hhead, List.forall_mem_append.mpr ⟨hfields, haccessors⟩⟩⟩
  rw [codeLines_eq]
  exact fun line hline => (hall line hline).single

/-- The text of a class without its comments tells its lines of code. -/
theorem codeLines_of_textOf (h : PlainNames "" e) (h' : PlainNames "" e')
    (htext : textOf (classLines style "" e) = textOf (classLines style "" e')) :
    codeLines style "" e = codeLines style "" e' := by
  have hcode := congrArg withoutBlocks htext
  rw [withoutBlocks_textOf (leaves_classLines h), withoutBlocks_textOf (leaves_classLines h')]
    at hcode
  have hlines := congrArg (fun text => text.toList.splitOn '\n') hcode
  simp only [splitOn_textOf, List.append_cancel_right_eq, physical_of_single (single_codeLines h),
    physical_of_single (single_codeLines h')] at hlines
  exact List.map_injective_iff.mpr (fun _ _ => String.toList_inj.mp) hlines

theorem textOf_classLines (style : Style) (package : String) (e : Entity) :
    textOf (classLines style package e) =
      packageText package ++ textOf (classLines style "" e) := by
  have hdefault : packageText "" = "" := rfl
  rw [classLines_eq, classLines_eq style "", hdefault, String.empty_append]

/-- Entities whose classes have the same text, in whatever package, are declared alike: no comment
is taken for code, and no line of code for another one. -/
theorem sameSkeleton_of_renderEntity {storage storage' : Storage.Tree} {o : Generation.Options}
    {text : String} (hstyle : o.templateFile = none) (hnames : FitNames e) (hnames' : FitNames e')
    (h : Generation.renderEntity storage o e = .ok text)
    (h' : Generation.renderEntity storage' o e' = .ok text) : SameSkeleton o.style e e' := by
  rw [renderEntity_of_style hstyle] at h h'
  have htext := (Except.ok.inj h).trans (Except.ok.inj h').symm
  rw [textOf_classLines, textOf_classLines _ _ e', String.append_right_inj] at htext
  exact sameSkeleton_of_codeLines hnames.quote hnames'.quote
    (codeLines_of_textOf hnames.plainNames hnames'.plainNames htext)

/-- An entity with a comment on its column. -/
def remarkedEntity (comment : String) : Entity :=
  { name := "Order", tableName := "t_order", comment := some "public class Other \x7b"
    creator := some "Ann", createDate := none, tableId := "o1", primaryKeyColId := none
    fields := [
      { entityName := "t_order", colId := "o2", colName := "total", name := "total"
        colType := "decimal(10,2)", javaType := .bigDecimal
        typeQualifiedName := some "java.math.BigDecimal", colLength := some 10
        comment := some comment, mandatory := true, isPrimaryKey := false }]
    dependencies := .ofList ["java.math.BigDecimal"] }

theorem fitNames_remarkedEntity (comment : String) : FitNames (remarkedEntity comment) := by
  have hclass : isIdentifier "Order" = true := by decide
  have hfield : isIdentifier "total" = true := by decide
  have htype : IsQualified "java.math.BigDecimal" := by decide +kernel
  have htable : '\n' ∉ "t_order".toList ∧ EndFree "t_order".toList := by decide +kernel
  have hcolumn : '\n' ∉ "total".toList ∧ '"' ∉ "total".toList := by decide
  exact ⟨hclass, List.forall_mem_singleton.mpr hfield, List.forall_mem_singleton.mpr htype,
    htable.1, htable.2, List.forall_mem_singleton.mpr hcolumn.1,
    List.forall_mem_singleton.mpr hcolumn.2⟩

/-- Two comments that look like code and are written in the same way, in a package that looks like a
comment: the classes have the same text and the entities the same skeleton. -/
theorem sameSkeleton_remarkedEntity :
    FitNames (remarkedEntity "@Id\n*/\nprivate Long id;") ∧
      FitNames (remarkedEntity " @Id \n*/ \nprivate Long id;\n") ∧
      (∃ text, Generation.renderEntity {} { package := "a\n/**", style := .jpa }
          (remarkedEntity "@Id\n*/\nprivate Long id;") = .ok text ∧
        Generation.renderEntity {} { package := "a\n/**", style := .jpa }
          (remarkedEntity " @Id \n*/ \nprivate Long id;\n") = .ok text) ∧
      SameSkeleton .jpa (remarkedEntity "@Id\n*/\nprivate Long id;")
        (remarkedEntity " @Id \n*/ \nprivate Long id;\n") := by
  have hrender : ∀ e, Generation.renderEntity {} { package := "a\n/**", style := .jpa } e =
      .ok (textOf (classLines .jpa "a\n/**" e)) := renderEntity_of_style rfl
  have hlines : classLines .jpa "a\n/**" (remarkedEntity "@Id\n*/\nprivate Long id;") =
      classLines .jpa "a\n/**" (remarkedEntity " @Id \n*/ \nprivate Long id;\n") := by
    decide +kernel
  have htext := hrender (remarkedEntity " @Id \n*/ \nprivate Long id;\n")
  rw [← hlines] at htext
  have hfit := fitNames_remarkedEntity "@Id\n*/\nprivate Long id;"
  have hfit' := fitNames_remarkedEntity " @Id \n*/ \nprivate Long id;\n"
  exact ⟨hfit, hfit', ⟨_, hrender _, htext⟩,
    sameSkeleton_of_renderEntity rfl hfit hfit' (hrender _) htext⟩

end EntityForge.Java
