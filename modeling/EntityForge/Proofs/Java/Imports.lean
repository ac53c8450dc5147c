import EntityForge.Proofs.Java.Comments
import EntityForge.Proofs.Model.Extraction

/-!
# Imports of classes

The imports of a class stand between the package and the comment on the class, one line for each
name in ascending order. They are the dependencies of the entity and what the annotations of the
style need, no more and no less. Of the names of Java itself an extracted entity imports those that
the types of its fields need, and a mapped class imports the annotation of keys just where it
annotates a field as the key.
-/

namespace EntityForge.Java

open Model (Entity Field)

/-! ### Reading imports -/

/-- The declaration of a package with the empty line behind it; nothing for the default package. -/
def packageText (package : String) : String :=
  textOf (paragraph (if package = "" then [] else ["package " ++ package ++ ";"]))

/-- The lines of the text of a class between the package and the comment on the class. -/
def importBlock (package text : String) : List (List Char) :=
  ((text.toList.drop (packageText package).length).splitOn '\n').takeWhile (· != "/**".toList)

/-- The lines that import some names, with an empty line behind them if there are any. -/
def importLines (names : List String) : List String :=
  paragraph (names.map fun name => "import " ++ name ++ ";")

/-- The text of the class of an entity imports some names. -/
structure ImportsOf (storage : Storage.Tree) (o : Generation.Options) (e : Entity) (text : String)
    (names : List String) : Prop where
  /-- It is the text of the class. -/
  rendered : Generation.renderEntity storage o e = .ok text
  /-- The import block has one line for each of the names, in order, and no other but an empty one
  at its end. -/
  block : importBlock o.package text = (importLines names).map String.toList
  /-- The names ascend, so none is imported twice. -/
  ascending : names.Pairwise (· < ·)
  /-- They are the dependencies and what the style imports. -/
  mem_iff : ∀ name, name ∈ names ↔ name ∈ e.dependencies.names ∨ name ∈ styleImports o.style e

/-- Of the names of Java itself, those that the types of the fields need are imported. -/
structure ImportsTypes (e : Entity) (names : List String) : Prop where
  /-- What the type of a field needs is imported. -/
  needed : ∀ f ∈ e.fields, ∀ name, f.javaType.qualifiedName? = some name → name ∈ names
  /-- Nothing else is. -/
  only : ∀ name ∈ names, "java.".toList <+: name.toList →
    ∃ f ∈ e.fields, f.javaType.qualifiedName? = some name

/-- The text that declares a field. -/
def declaration (style : Style) (f : Field) : String :=
  textOf (fieldLines style f)

/-- Whether the code of a declaration, behind its comment, begins with the annotation of keys. -/
def isAnnotatedId (declared : String) : Bool :=
  (outsideBlocks false (declared.toList.splitOn '\n')).find? (· != []) ==
    some (indent 1 ++ "@Id").toList

/-- The annotation of keys is imported if it is needed. -/
structure ImportsKey (text : String) (e : Entity) (names : List String) : Prop where
  /-- The text declares the fields one after another. -/
  declared : ∃ before after,
    text = before ++ String.join (e.fields.map (declaration .jpa)) ++ after
  /-- The declaration of a field is annotated just where the field is the primary key. -/
  annotated : ∀ f ∈ e.fields, isAnnotatedId (declaration .jpa f) = f.isPrimaryKey
  /-- The annotation is imported just where a declaration is annotated. -/
  imported : "jakarta.persistence.Id" ∈ names ↔
    ∃ declared ∈ e.fields.map (declaration .jpa), isAnnotatedId declared = true

variable {style : Style} {package : String} {e : Entity} {f : Field}

/-! ### The import block -/

theorem drop_packageText (package text : String) :
    (packageText package ++ text).toList.drop (packageText package).length = text.toList := by
  rw [String.toList_append, ← String.length_toList, List.drop_left]

/-- A line of imports is on one line and does not open the comment on the class. -/
theorem importLine_cases {names : List String} {line : String} (h : line ∈ importLines names) :
    line = "" ∨ ∃ name ∈ names, line = "import " ++ name ++ ";" := by
  rw [importLines, paragraph] at h
  split_ifs at h
  · cases h
  · rcases List.mem_append.mp h with h | h
    · obtain ⟨name, hname, rfl⟩ := List.mem_map.mp h
      exact .inr ⟨name, hname, rfl⟩
    · exact .inl (List.mem_singleton.mp h)

theorem importBlock_eq {names : List String} (hnames : ∀ name ∈ names, '\n' ∉ name.toList)
    (rest : List String) :
    importBlock package (packageText package ++ textOf (importLines names ++ "/**" :: rest)) =
      (importLines names).map String.toList := by
  have hsingle : ∀ line ∈ importLines names, '\n' ∉ line.toList := by
    intro line hline
    rcases importLine_cases hline with rfl | ⟨name, hname, rfl⟩
    · decide
    · simp [hnames name hname]
  have hopen : ∀ line ∈ (importLines names).map String.toList, (line != "/**".toList) = true := by
    intro line hline
    obtain ⟨written, hwritten, rfl⟩ := List.mem_map.mp hline
    rcases importLine_cases hwritten with rfl | ⟨name, -, rfl⟩
    · decide
    · simp
  have hfirst : physical ("/**" :: rest) = "/**".toList :: physical rest := rfl
  rw [importBlock, drop_packageText, splitOn_textOf, physical_append, physical_of_single hsingle,
    List.append_assoc, List.takeWhile_append_of_pos hopen, hfirst, List.cons_append,
    List.takeWhile_cons_of_neg (by simp), List.append_nil]

/-- What follows the imports in a class. -/
def linesBehindImports (style : Style) (e : Entity) : List String :=
  (classComment e).tail ++ classAnnotations style e ++ ["public class " ++ e.name ++ " \x7b"] ++
    e.fields.flatMap (fieldLines style) ++
    (if style.hasAccessors then e.fields.flatMap accessorLines else []) ++ ["\x7d"]

theorem classLines_eq (style : Style) (package : String) (e : Entity) :
    textOf (classLines style package e) = packageText package ++
      textOf (importLines (imports style e).names ++ "/**" :: linesBehindImports style e) := by
  rw [packageText, ← textOf_append]
  simp [classLines, linesBehindImports, importLines, classComment]

theorem mem_imports {name : String} :
    name ∈ (imports style e).names ↔ name ∈ e.dependencies.names ∨ name ∈ styleImports style e :=
  Model.NameSet.mem_foldl_insert

theorem importsOf_imports {storage : Storage.Tree} {o : Generation.Options}
    (hstyle : o.templateFile = none) (hnames : ∀ name ∈ e.dependencies.names, '\n' ∉ name.toList) :
    ImportsOf storage o e (textOf (classLines o.style o.package e)) (imports o.style e).names := by
  have hsingle : ∀ name ∈ (imports o.style e).names, '\n' ∉ name.toList := fun name hname =>
    (mem_imports.mp hname).elim (hnames name) (single_styleImports name)
  refine ⟨renderEntity_of_style hstyle e, ?_, (imports o.style e).ascending, fun _ => mem_imports⟩
  rw [classLines_eq, importBlock_eq hsingle]

/-! ### Annotated declarations -/

/-- A written line that begins on one line makes a line that begins so. -/
theorem exists_physical_cons {front : String} (h : '\n' ∉ front.toList) (text : String)
    (written : List String) : ∃ first rest, first <+: text.toList ∧
      physical ((front ++ text) :: written) = (front.toList ++ first) :: rest := by
  obtain ⟨first, others, hsplit⟩ :=
    List.exists_cons_of_ne_nil (List.splitOn_ne_nil '\n' text.toList)
  have hprefix : first <+: text.toList := by
    have hwhole : ['\n'].intercalate (text.toList.splitOn '\n') = text.toList :=
      List.intercalate_splitOn '\n'
    rw [hsplit] at hwhole
    rw [← hwhole]
    cases others with
    | nil => simp
    | cons second others =>
      rw [List.intercalate_cons_cons]
      exact (List.prefix_append first _).trans (List.prefix_append _ _)
  refine ⟨first, others ++ physical written, hprefix, ?_⟩
  rw [physical, List.flatMap_cons, String.toList_append, Text.splitOn_append_left h, hsplit,
    List.modifyHead_cons]
  rfl

/-- Behind the comment on a field, the first line of the code decides whether it is annotated. -/
theorem isAnnotatedId_textOf (front : String) (hsingle : '\n' ∉ front.toList)
    (hstarts : startsCode front.toList = true) (f : Field) (text : String) (written : List String) :
    ∃ first, first <+: text.toList ∧
      isAnnotatedId (textOf ([""] ++ fieldComment f ++ ((front ++ text) :: written))) =
        (front.toList ++ first == (indent 1 ++ "@Id").toList) := by
  obtain ⟨first, rest, hprefix, hphysical⟩ := exists_physical_cons hsingle text written
  have hcode : opensBlock (front.toList ++ first) = false :=
    opensBlock_of_startsCode (startsCode_append hstarts first)
  have hne : front.toList ++ first ≠ [] := by
    intro hnil
    rw [(List.append_eq_nil_iff.mp hnil).1] at hstarts
    cases hstarts
  have hempty : Leaves (physical [""]) [[]] :=
    leaves_code (List.forall_mem_singleton.mpr codeLine_empty)
  have hcomment : Leaves (physical (fieldComment f)) [] := leaves_fieldComment f
  refine ⟨first, hprefix, ?_⟩
  have hline : outsideBlocks false ((front.toList ++ first) :: rest ++ [[]]) =
      (front.toList ++ first) :: outsideBlocks false (rest ++ [[]]) := by
    simp [outsideBlocks, hcode]
  rw [isAnnotatedId, splitOn_textOf, physical_append, physical_append, List.append_assoc,
    hempty.append hcomment, hphysical, hline]
  simp [hne]

/-- The declaration of a field is annotated just where the field is the primary key, whatever the
names of the column and the field are. -/
theorem isAnnotatedId_declaration (f : Field) :
    isAnnotatedId (declaration .jpa f) = f.isPrimaryKey := by
  rw [declaration, fieldLines, fieldAnnotations, List.append_assoc _ _ [_]]
  cases hkey : f.isPrimaryKey with
  | true =>
    obtain ⟨first, hfirst, h⟩ := isAnnotatedId_textOf (indent 1 ++ "@Id")
      (by decide +kernel) (by decide +kernel) f "" _
    rw [List.prefix_nil.mp hfirst, List.append_nil, beq_self_eq_true, String.append_empty] at h
    exact h
  | false =>
    obtain ⟨first, -, h⟩ := isAnnotatedId_textOf (indent 1 ++ "@Column(name = \"")
      (by decide +kernel) (by decide +kernel) f _ _
    simp only [String.append_assoc] at h ⊢
    refine h.trans ?_
    simp [indent]

/-- The lines of a class up to its head. -/
def linesBeforeFields (style : Style) (package : String) (e : Entity) : List String :=
  paragraph (if package = "" then [] else ["package " ++ package ++ ";"]) ++
    importLines (imports style e).names ++ classComment e ++ classAnnotations style e ++
    ["public class " ++ e.name ++ " \x7b"]

/-- The text of a class declares its fields one after another. -/
theorem join_declaration (style : Style) (package : String) (e : Entity) : ∃ before after,
    textOf (classLines style package e) =
      before ++ String.join (e.fields.map (declaration style)) ++ after := by
  have hfields : String.join (e.fields.map (declaration style)) =
      textOf (e.fields.flatMap (fieldLines style)) := (textOf_flatMap e.fields _).symm
  refine ⟨textOf (linesBeforeFields style package e), textOf
    ((if style.hasAccessors then e.fields.flatMap accessorLines else []) ++ ["\x7d"]), ?_⟩
  rw [hfields, ← textOf_append, ← textOf_append, ← List.append_assoc]
  rfl

/-! ### Extracted entities -/

variable {naming : Model.Naming} {types : Model.TypeTable} {table : Xml.Element}

theorem qualifiedName?_plain {t : Model.JavaType} {name : String}
    (h : t.qualifiedName? = some name) :
    '\n' ∉ name.toList ∧ name ≠ "jakarta.persistence.Id" := by
  cases t <;> cases h <;> decide +kernel

theorem single_dependencies (h : Model.EntityOf naming types table e) :
    ∀ name ∈ e.dependencies.names, '\n' ∉ name.toList := by
  intro name hname
  obtain ⟨f, -, hqualified⟩ := (h.dependencies name).mp hname
  exact (qualifiedName?_plain hqualified).1

/-- No style imports a name of Java itself. -/
theorem styleImports_foreign : ∀ name ∈ styleImports style e, ¬ "java.".toList <+: name.toList := by
  have hfixed : ∀ name ∈ ["lombok.Data", "jakarta.persistence.Column", "jakarta.persistence.Entity",
      "jakarta.persistence.Table", "jakarta.persistence.Id"], ¬ "java.".toList <+: name.toList := by
    decide +kernel
  intro name hname
  refine hfixed name ?_
  cases style with
  | pojo => cases hname
  | lombok =>
    rw [List.mem_singleton.mp hname]
    exact List.mem_cons_self
  | jpa =>
    rw [styleImports] at hname
    split_ifs at hname with hkey
    · simpa using Or.inr hname
    · simp at hname ⊢
      tauto

theorem importsTypes_imports (h : Model.EntityOf naming types table e) :
    ImportsTypes e (imports style e).names := by
  refine ⟨fun f hf name hname => ?_, fun name hname hjava => ?_⟩
  · exact mem_imports.mpr (.inl ((h.dependencies name).mpr ⟨f, hf, hname⟩))
  · rcases mem_imports.mp hname with hname | hname
    · exact (h.dependencies name).mp hname
    · exact absurd hjava (styleImports_foreign name hname)

theorem mem_styleImports_id :
    "jakarta.persistence.Id" ∈ styleImports .jpa e ↔ ∃ f ∈ e.fields, f.isPrimaryKey = true := by
  have hfixed : "jakarta.persistence.Id" ∉ ["jakarta.persistence.Column",
    "jakarta.persistence.Entity", "jakarta.persistence.Table"] := by decide +kernel
  rw [styleImports, List.mem_append, or_iff_right hfixed, Entity.primaryKey?,
    ← List.find?_isSome]
  split_ifs with hkey
  · simp [hkey]
  · simp [hkey]

theorem importsKey_imports (h : Model.EntityOf naming types table e) :
    ImportsKey (textOf (classLines .jpa package e)) e (imports .jpa e).names := by
  have hdependencies : "jakarta.persistence.Id" ∉ e.dependencies.names := by
    intro hname
    obtain ⟨f, -, hqualified⟩ := (h.dependencies _).mp hname
    exact (qualifiedName?_plain hqualified).2 rfl
  refine ⟨join_declaration .jpa package e, fun f _ => isAnnotatedId_declaration f, ?_⟩
  rw [mem_imports, or_iff_right hdependencies, mem_styleImports_id]
  simp [isAnnotatedId_declaration]

/-! ### Texts of classes -/

/-- The class of an entity imports its dependencies and what its style needs, in ascending order.
Of the names of Java itself an extracted entity imports those of its types, and a mapped class
imports the annotation of keys just where it is used, on the field that is the primary key. -/
theorem importsOf_renderEntity {storage : Storage.Tree} {o : Generation.Options}
    (hstyle : o.templateFile = none) :
    (∀ e, (∀ name ∈ e.dependencies.names, '\n' ∉ name.toList) →
      ∃ text names, ImportsOf storage o e text names) ∧
    ∀ naming types root entities, Model.entitiesOfDocument naming types root = .ok entities →
      ∀ e ∈ entities, ∃ text names, ImportsOf storage o e text names ∧ ImportsTypes e names ∧
        (o.style = .jpa → ImportsKey text e names) := by
  refine ⟨fun e hnames => ⟨_, _, importsOf_imports hstyle hnames⟩, ?_⟩
  intro naming types root entities hentities e he
  obtain ⟨tables, -, hforall⟩ := Model.entitiesOfDocument_eq_ok.mp hentities
  obtain ⟨table, -, hentity⟩ := Outcome.exists_left_of_forall₂ hforall he
  refine ⟨_, _, importsOf_imports hstyle (single_dependencies hentity),
    importsTypes_imports hentity, fun hjpa => ?_⟩
  rw [hjpa]
  exact importsKey_imports hentity

/-- A document with a table that has a key and a price. -/
def pricedDocument : Xml.Element :=
  ⟨"Model", [], [⟨"Tables", [], [⟨"Table", [("Id", "o1")], [⟨"Code", [], [], "t_item"⟩,
    ⟨"PrimaryKey", [], [⟨"Key", [("Ref", "o5")], [], ""⟩], ""⟩,
    ⟨"Keys", [], [⟨"Key", [("Id", "o5")], [⟨"Key.Columns", [],
      [⟨"Column", [("Ref", "o2")], [], ""⟩], ""⟩], ""⟩], ""⟩,
    ⟨"Columns", [], [
      ⟨"Column", [("Id", "o2")], [⟨"Code", [], [], "id"⟩, ⟨"DataType", [], [], "int"⟩], ""⟩,
      ⟨"Column", [("Id", "o3")], [⟨"Code", [], [], "price"⟩,
        ⟨"DataType", [], [], "decimal(10,2)"⟩], ""⟩], ""⟩], ""⟩], ""⟩], ""⟩

/-- Its entity imports the type of the price and, in a mapped class, the annotation of the key. -/
theorem importsOf_pricedDocument :
    ∃ e text names, Model.entitiesOfDocument {} .standard pricedDocument = .ok [e] ∧
      ImportsOf {} { package := "shop", style := .jpa } e text names ∧
      "java.math.BigDecimal" ∈ names ∧ "jakarta.persistence.Id" ∈ names := by
  have hprices : (Model.entitiesOfDocument {} .standard pricedDocument).toOption.map (·.map fun e =>
      (e.fields.map (·.javaType), e.fields.map (·.isPrimaryKey))) =
      some [([.integer, .bigDecimal], [true, false])] := by decide +kernel
  cases h : Model.entitiesOfDocument {} .standard pricedDocument with
  | error f => rw [h] at hprices; cases hprices
  | ok entities =>
    rw [h] at hprices
    obtain ⟨e, rfl, he⟩ := List.map_eq_singleton_iff.mp (Option.some.inj hprices)
    obtain ⟨text, names, himports, htypes, hkey⟩ := (@importsOf_renderEntity {}
      { package := "shop", style := .jpa } rfl).2 {} .standard pricedDocument [e] h e
      List.mem_cons_self
    obtain ⟨hfields, hkeys⟩ := Prod.mk.inj he
    refine ⟨e, text, names, rfl, himports, ?_, ?_⟩
    · obtain ⟨f, hf, htype⟩ := List.mem_map.mp (show .bigDecimal ∈ e.fields.map (·.javaType) by
        rw [hfields]
        decide)
      exact htypes.needed f hf _ (by rw [htype]; rfl)
    · obtain ⟨f, hf, htrue⟩ := List.mem_map.mp (show true ∈ e.fields.map (·.isPrimaryKey) by
        rw [hkeys]
        decide)
      refine (hkey rfl).imported.mpr ⟨_, List.mem_map_of_mem hf, ?_⟩
      rw [(hkey rfl).annotated f hf, htrue]

end EntityForge.Java
