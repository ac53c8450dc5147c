import EntityForge.Proofs.Generation.Writing
import EntityForge.Proofs.Java.Imports
import EntityForge.Proofs.Model.Loading
import EntityForge.Proofs.Model.Naming
import EntityForge.Proofs.Xml.Reading
import Mathlib.Data.List.Nodup

/-!
# Names of members

A class that is written declares no field twice: columns that share a field name are refused. The
accessors are named by the fields, with the first character in upper case, and these names are not
compared. Two fields share their accessors just where upper case sends their names to one text, as
it does a dotted and a dotless i. That takes a first character which lower case does not bring back,
so fields that begin with characters of ASCII, or with any others that are the lower case of their
upper case, have accessors of their own.
-/

namespace EntityForge.Java

open Model (Entity Field Naming)

/-! ### Accessors -/

/-- An accessor of a class. -/
structure Method where
  /-- The type of what it returns. -/
  result : String
  /-- The name. -/
  name : String
  /-- The parameters. -/
  parameters : String
  /-- Its one statement. -/
  statement : String

/-- The lines of an accessor, with an empty line before it. -/
def Method.lines (m : Method) : List String :=
  ["",
    indent 1 ++ "public " ++ m.result ++ " " ++ m.name ++ "(" ++ m.parameters ++ ") \x7b",
    indent 2 ++ m.statement ++ ";",
    indent 1 ++ "\x7d"]

/-- The accessor that gives the value of a field. -/
def getter (f : Field) : Method :=
  { result := f.javaType.simpleName
    name := "get" ++ accessorSuffix f.name
    parameters := ""
    statement := "return " ++ f.name }

/-- The accessor that changes the value of a field. -/
def setter (f : Field) : Method :=
  { result := "void"
    name := "set" ++ accessorSuffix f.name
    parameters := f.javaType.simpleName ++ " " ++ f.name
    statement := "this." ++ f.name ++ " = " ++ f.name }

/-- The methods of the class of an entity. -/
def methods (style : Style) (e : Entity) : List Method :=
  if style.hasAccessors then e.fields.flatMap fun f => [getter f, setter f] else []

theorem accessorLines_eq (f : Field) :
    accessorLines f = [getter f, setter f].flatMap Method.lines := by
  simp only [accessorLines, List.flatMap_cons, List.flatMap_nil, Method.lines, getter, setter,
    List.cons_append, List.nil_append, List.cons.injEq, true_and, and_true]
  refine ⟨?_, ?_, ?_, ?_⟩ <;> exact String.toList_inj.mp (by simp)

/-- The class of an entity is its head, the declarations of its fields and its methods. -/
def memberLines (style : Style) (package : String) (e : Entity) : List String :=
  linesBeforeFields style package e ++ e.fields.flatMap (fieldLines style) ++
    (methods style e).flatMap Method.lines ++ ["\x7d"]

theorem classLines_eq_memberLines (style : Style) (package : String) (e : Entity) :
    classLines style package e = memberLines style package e := by
  have hmethods : (if style.hasAccessors then e.fields.flatMap accessorLines else []) =
      (methods style e).flatMap Method.lines := by
    have haccessors : accessorLines = fun f => [getter f, setter f].flatMap Method.lines :=
      funext accessorLines_eq
    rw [methods]
    split_ifs
    · rw [haccessors, List.flatMap_assoc]
    · rfl
  rw [memberLines, ← hmethods]
  rfl

/-- No two fields of a class have the same name, and no two methods. -/
structure DistinctMembers (style : Style) (e : Entity) : Prop where
  /-- The names of the fields differ. -/
  fields : (e.fields.map (·.name)).Nodup
  /-- The names of the methods differ. -/
  methods : ((methods style e).map (·.name)).Nodup

/-! ### Clashes -/

/-- Two names differ in their first characters, and are the same with these in upper case. -/
def Clash (name name' : String) : Prop :=
  ∃ c cs d ds, name.toList = c :: cs ∧ name'.toList = d :: ds ∧ c ≠ d ∧
    Text.upper c ++ cs = Text.upper d ++ ds

theorem toList_accessorSuffix {name : String} {c : Char} {cs : List Char}
    (h : name.toList = c :: cs) : (accessorSuffix name).toList = Text.upper c ++ cs := by
  rw [accessorSuffix, h]
  exact String.toList_ofList

theorem accessorSuffix_eq_empty {name : String} : accessorSuffix name = "" ↔ name = "" := by
  constructor
  · intro h
    cases hname : name.toList with
    | nil => exact String.toList_inj.mp hname
    | cons c cs =>
      have hsuffix := toList_accessorSuffix hname
      rw [h] at hsuffix
      exact absurd (List.append_eq_nil_iff.mp hsuffix.symm).1 (Text.upper_ne_nil c)
  · rintro rfl
    rfl

theorem Clash.ne {name name' : String} (h : Clash name name') : name ≠ name' := by
  rintro rfl
  obtain ⟨c, cs, d, ds, hname, hname', hne, -⟩ := h
  rw [hname] at hname'
  exact hne (List.cons.inj hname').1

/-- Names that go on alike in accessors are the same or clash. -/
theorem accessorSuffix_inj_iff {name name' : String} :
    accessorSuffix name = accessorSuffix name' ↔ name = name' ∨ Clash name name' := by
  constructor
  · intro h
    cases hname : name.toList with
    | nil =>
      obtain rfl : name = "" := String.toList_inj.mp hname
      exact .inl (accessorSuffix_eq_empty.mp h.symm).symm
    | cons c cs =>
      cases hname' : name'.toList with
      | nil =>
        obtain rfl : name' = "" := String.toList_inj.mp hname'
        exact .inl (accessorSuffix_eq_empty.mp h)
      | cons d ds =>
        have hupper := congrArg String.toList h
        rw [toList_accessorSuffix hname, toList_accessorSuffix hname'] at hupper
        by_cases hcd : c = d
        · subst hcd
          refine .inl (String.toList_inj.mp ?_)
          rw [hname, hname', List.append_cancel_left hupper]
        · exact .inr ⟨c, cs, d, ds, hname, hname', hcd, hupper⟩
  · rintro (rfl | ⟨c, cs, d, ds, hname, hname', -, hupper⟩)
    · rfl
    · apply String.toList_inj.mp
      rw [toList_accessorSuffix hname, toList_accessorSuffix hname', hupper]

/-- A name begins with a character that is the lower case of its upper case, if with any. -/
def Restorable (name : String) : Prop :=
  ∀ c ∈ name.toList.head?, Text.Restored c

/-- Upper case can be undone on names that begin with such characters, so they do not clash. -/
theorem not_clash_of_restorable {name name' : String} (h : Restorable name)
    (h' : Restorable name') : ¬ Clash name name' := by
  rintro ⟨c, cs, d, ds, hname, hname', hne, hupper⟩
  rw [Restorable, hname] at h
  rw [Restorable, hname'] at h'
  obtain ⟨u, hu, hc⟩ := h c rfl
  obtain ⟨v, hv, hd⟩ := h' d rfl
  rw [hu, hv, List.singleton_append, List.singleton_append, List.cons.injEq] at hupper
  obtain ⟨rfl, -⟩ := hupper
  exact hne (List.singleton_inj.mp (hc.symm.trans hd))

/-! ### Classes -/

variable {style : Style} {e : Entity}

/-- The accessors of two fields have no name in common just where the names go on differently. -/
theorem disjoint_accessors {f f' : Field} :
    List.Disjoint ([getter f, setter f].map (·.name)) ([getter f', setter f'].map (·.name)) ↔
      accessorSuffix f.name ≠ accessorSuffix f'.name := by
  have hkinds : ∀ suffix suffix' : String, "get" ++ suffix ≠ "set" ++ suffix' := by
    intro suffix suffix' h
    have hlist := congrArg String.toList h
    simp at hlist
  simp [List.Disjoint, getter, setter, hkinds, (hkinds _ _).symm]

/-- The methods of a class with accessors have different names just where the names of the fields go
on differently in them. -/
theorem nodup_methods_iff (hstyle : style.hasAccessors = true) :
    ((methods style e).map (·.name)).Nodup ↔
      (e.fields.map fun f => accessorSuffix f.name).Nodup := by
  have hpair : ∀ f : Field, ([getter f, setter f].map (·.name)).Nodup := by
    intro f
    simp [getter, setter]
  rw [methods, if_pos hstyle, List.map_flatMap, List.nodup_flatMap,
    and_iff_right fun f _ => hpair f, List.Nodup, List.pairwise_map]
  exact ⟨fun h => h.imp disjoint_accessors.mp, fun h => h.imp disjoint_accessors.mpr⟩

/-- A class that declares no field twice declares no member twice just where no fields clash. -/
theorem distinctMembers_iff (hstyle : style.hasAccessors = true)
    (hfields : (e.fields.map (·.name)).Nodup) :
    DistinctMembers style e ↔ ∀ f ∈ e.fields, ∀ f' ∈ e.fields, ¬ Clash f.name f'.name := by
  have hmap : e.fields.map (fun f => accessorSuffix f.name) =
      (e.fields.map (·.name)).map accessorSuffix := by
    rw [List.map_map]
    rfl
  have hmethods : ((methods style e).map (·.name)).Nodup ↔
      ∀ f ∈ e.fields, ∀ f' ∈ e.fields, ¬ Clash f.name f'.name := by
    rw [nodup_methods_iff hstyle, hmap, List.nodup_map_iff_inj_on hfields]
    simp only [List.forall_mem_map, accessorSuffix_inj_iff]
    refine forall₂_congr fun f _ => forall₂_congr fun f' _ => ?_
    exact ⟨fun h hclash => hclash.ne (h (.inr hclash)), fun h heq => heq.resolve_right h⟩
  exact ⟨fun h => hmethods.mp h.methods, fun h => ⟨hfields, hmethods.mpr h⟩⟩

/-! ### Loaded entities -/

/-- The fields of a loaded entity are named by its columns. -/
theorem name_of_loadText {naming : Naming} {text : String} {entities : List Entity}
    (h : Model.loadText naming text = .ok entities) (he : e ∈ entities) :
    ∀ f ∈ e.fields, f.name = Naming.fieldName f.colName := by
  intro f hf
  obtain ⟨root, -, hentities⟩ := Model.loadText_eq_ok.mp h
  obtain ⟨tables, -, hforall⟩ := Model.entitiesOfDocument_eq_ok.mp hentities
  obtain ⟨table, -, hentity⟩ := Outcome.exists_left_of_forall₂ hforall he
  obtain ⟨code, columns, -, -, -, -, -, hfields⟩ := hentity.code
  obtain ⟨column, -, hfield⟩ := Outcome.exists_left_of_forall₂ hfields hf
  exact hfield.name

/-- The name of a loaded field can be restored if it begins with a character of ASCII: none begins
with a capital. -/
theorem restorable_of_loadText {naming : Naming} {text : String} {entities : List Entity}
    (h : Model.loadText naming text = .ok entities) (he : e ∈ entities) {f : Field}
    (hf : f ∈ e.fields) (hbegins : ∀ c ∈ f.name.toList.head?, c.toNat < 128 ∨ Text.Restored c) :
    Restorable f.name := by
  intro c hc
  rcases hbegins c hc with hascii | hrestored
  · rw [name_of_loadText h he f hf] at hc
    exact Text.restored_of_ascii hascii (Naming.isUpper_of_mem_head?_fieldName hc)
  · exact hrestored

/-- A class with accessors that is written for a loaded entity has no two fields of one name. It has
no two methods of one name just where no two field names clash, and so in particular where all field
names begin with characters of ASCII or with ones that are the lower case of their upper case. -/
theorem distinctMembers_iff_of_writeSources {naming : Naming} {text : String}
    {entities : List Entity} {storage storage' : Storage.Tree} {o : Generation.Options}
    {paths : List Storage.Path} (hload : Model.loadText naming text = .ok entities)
    (hstyle : o.templateFile = none) (haccessors : o.style.hasAccessors = true)
    (hwrite : Generation.writeSources storage o entities = (storage', .ok paths)) :
    ∀ e ∈ entities,
      Generation.renderEntity storage o e = .ok (textOf (memberLines o.style o.package e)) ∧
      (e.fields.map (·.name)).Nodup ∧
      (DistinctMembers o.style e ↔ ∀ f ∈ e.fields, ∀ f' ∈ e.fields, ¬ Clash f.name f'.name) ∧
      ((∀ f ∈ e.fields, ∀ c ∈ f.name.toList.head?, c.toNat < 128 ∨ Text.Restored c) →
        DistinctMembers o.style e) := by
  intro e he
  have hrender : Generation.renderEntity storage o e =
      .ok (textOf (classLines o.style o.package e)) := renderEntity_of_style hstyle e
  rw [classLines_eq_memberLines] at hrender
  have hfields := Generation.nodup_fields_of_writeSources hwrite e he
  have hiff := distinctMembers_iff haccessors hfields
  refine ⟨hrender, hfields, hiff, fun hbegins => hiff.mpr fun f hf f' hf' => ?_⟩
  exact not_clash_of_restorable (restorable_of_loadText hload he hf (hbegins f hf))
    (restorable_of_loadText hload he hf' (hbegins f' hf'))

/-! ### A table with two columns -/

/-- A document with a column `i` and another one. -/
def pairedDocument (code : String) : String :=
  String.join ["<Model><Tables><Table Id='o1'><Code>t</Code>",
    "<Columns><Column Id='o2'><Code>i</Code><DataType>int</DataType></Column>",
    "<Column Id='o3'><Code>", code, "</Code><DataType>int</DataType></Column></Columns>",
    "</Table></Tables></Model>"]

/-- A column of the document. -/
def pairedColumn (id code : String) : Xml.Element :=
  ⟨"Column", [("Id", id)], [⟨"Code", [], [], code⟩, ⟨"DataType", [], [], "int"⟩], ""⟩

/-- What the document holds. -/
def pairedRoot (code : String) : Xml.Element :=
  ⟨"Model", [], [⟨"Tables", [], [⟨"Table", [("Id", "o1")], [⟨"Code", [], [], "t"⟩,
    ⟨"Columns", [], [pairedColumn "o2" "i", pairedColumn "o3" code], ""⟩], ""⟩], ""⟩], ""⟩

/-- The field of a column of the document. -/
def pairedField (id code : String) : Field :=
  { entityName := "t", colId := id, colName := code, name := Naming.fieldName code, colType := "int"
    javaType := .integer, typeQualifiedName := none, colLength := none, comment := none
    mandatory := false, isPrimaryKey := false }

/-- The entity of the table. -/
def pairedEntity (code : String) : Entity :=
  { name := Naming.className {} "t", tableName := "t", comment := none, creator := none
    createDate := none, tableId := "o1", primaryKeyColId := none
    fields := [pairedField "o2" "i", pairedField "o3" code], dependencies := .ofList [] }

theorem loadText_pairedDocument {code : String}
    (hparse : Xml.parseDocument (pairedDocument code) = .ok (pairedRoot code)) :
    Model.loadText {} (pairedDocument code) = .ok [pairedEntity code] := by
  have hmark : Model.withoutMark (pairedDocument code) = pairedDocument code :=
    Model.withoutMark_join rfl (by decide) _
  have htype : Model.TypeTable.standard.lookup "int" = some .integer := by decide +kernel
  have hfield : ∀ id code, Model.FieldOf .standard "t" none (pairedColumn id code)
      (pairedField id code) := fun id code =>
    ⟨rfl, rfl, rfl, rfl, rfl, htype, rfl, rfl, rfl, iff_of_false Bool.false_ne_true nofun,
      iff_of_false Bool.false_ne_true nofun⟩
  refine Model.loadText_eq_ok.mpr ⟨pairedRoot code, by rw [hmark, hparse], ?_⟩
  refine Model.entitiesOfDocument_eq_ok.mpr ⟨_, ⟨_, rfl, rfl⟩, .cons ?_ .nil⟩
  refine ⟨rfl, rfl, rfl, rfl, ⟨"t", _, rfl, rfl, rfl, rfl, rfl,
    .cons (hfield "o2" "i") (.cons (hfield "o3" code) .nil)⟩, fun name => ?_⟩
  simp [pairedEntity, pairedField, Model.NameSet.ofList, Model.NameSet.empty,
    Model.JavaType.qualifiedName?]

/-- Beside the column `i`, one that begins with the same letter has accessors of its own. -/
theorem distinctMembers_pairedEntity :
    Model.loadText {} (pairedDocument "i_d") = .ok [pairedEntity "i_d"] ∧
      (∃ storage' paths, Generation.writeSources {} { package := "shop", style := .jpa }
        [pairedEntity "i_d"] = (storage', .ok paths)) ∧
      DistinctMembers .jpa (pairedEntity "i_d") := by
  have hparse : Xml.parseDocument (pairedDocument "i_d") = .ok (pairedRoot "i_d") := by
    rw [pairedDocument, Xml.parseDocument_of_toList String.toList_join (by decide +kernel)]
    decide +kernel
  have hload := loadText_pairedDocument hparse
  have hfailure : (Generation.writing {} { package := "shop", style := .jpa }
      [pairedEntity "i_d"]).failure = none := by decide +kernel
  have hwrite := Generation.writeSources_eq_ok.mpr ⟨rfl, hfailure, rfl⟩
  obtain ⟨-, -, -, hdistinct⟩ :=
    distinctMembers_iff_of_writeSources hload rfl rfl hwrite _ (List.mem_singleton_self _)
  refine ⟨hload, ⟨_, _, hwrite⟩, hdistinct fun f hf c hc => .inl ?_⟩
  have hhead : f.name.toList.head? = some 'i' := by
    rcases List.mem_pair.mp hf with rfl | rfl
    · decide +kernel
    · decide +kernel
  rw [hhead] at hc
  exact Option.some.inj hc ▸ by decide

/-- Beside the column `i`, one that is named by a dotless i gives a field of its own, and accessors
of the same names. -/
theorem not_distinctMembers_pairedEntity :
    Model.loadText {} (pairedDocument "ı") = .ok [pairedEntity "ı"] ∧
      (∃ storage' paths, Generation.writeSources {} { package := "shop" } [pairedEntity "ı"] =
        (storage', .ok paths)) ∧
      ((pairedEntity "ı").fields.map (·.name)).Nodup ∧
      ¬ ((methods .pojo (pairedEntity "ı")).map (·.name)).Nodup ∧
      ¬ DistinctMembers .pojo (pairedEntity "ı") := by
  have hparse : Xml.parseDocument (pairedDocument "ı") = .ok (pairedRoot "ı") := by
    rw [pairedDocument, Xml.parseDocument_of_toList String.toList_join (by decide +kernel)]
    decide +kernel
  have hfailure : (Generation.writing {} { package := "shop" } [pairedEntity "ı"]).failure =
      none := by decide +kernel
  have hwrite := Generation.writeSources_eq_ok.mpr ⟨rfl, hfailure, rfl⟩
  have hmethods : ¬ ((methods .pojo (pairedEntity "ı")).map (·.name)).Nodup := by decide +kernel
  have hfields := Generation.nodup_fields_of_writeSources hwrite _ (List.mem_singleton_self _)
  exact ⟨loadText_pairedDocument hparse, ⟨_, _, hwrite⟩, hfields, hmethods,
    fun h => hmethods h.methods⟩

end EntityForge.Java
