import EntityForge.Proofs.Generation.Writing
import EntityForge.Proofs.Model.Naming
import EntityForge.Proofs.Model.PrimaryKey
import EntityForge.Proofs.Storage.Components

/-!
# Where classes go

The class of a name without slashes is a file directly in the directory of the package, and a
generation whose classes all have such names changes nothing outside that directory, whether it
succeeds or not. Class names are taken from a document as they are: nothing checks that they are
identifiers, as the segments of a package are checked. A code with a slash in it gives a class name
with a slash, and the path of such a class leads elsewhere: below the directory, above it, or
anywhere if the slash comes first.
-/

namespace EntityForge.Generation

open Model (Entity Naming)
open Storage (Component Path Place Tree)

/-! ### One class -/

/-- The class of an entity is a file of its name directly in the directory of the package. -/
def Options.Holds (o : Options) (e : Entity) : Prop :=
  Path.DirectlyIn o.packageDir (e.name ++ ".java") (o.classPath e.name)

/-- The class of an entity stands in the directory of the package just where its name has no
slash. -/
theorem holds_iff (o : Options) (e : Entity) : o.Holds e ↔ '/' ∉ e.name.toList := by
  have hpiece : Component.ofPiece? (e.name ++ ".java") = some (.named (e.name ++ ".java")) :=
    Path.ofPiece?_of_ne (fileName_ne e.name (by decide))
      ⟨fileName_ne e.name (by decide), fileName_ne e.name (by decide)⟩
  rw [Options.Holds, Options.classPath, Path.directlyIn_join hpiece, slash_mem_fileName]

/-! ### All classes -/

theorem LeftBehind.refl (storage : Tree) (o : Options) : LeftBehind storage storage o [] :=
  ⟨rfl, by simp, fun _ _ => .inl rfl⟩

/-- Whatever becomes of a generation, it leaves behind the classes of the first entities. -/
theorem leftBehind_writeSources {storage : Tree} {o : Options} {entities : List Entity}
    (hnames : ∀ e ∈ entities, '/' ∉ e.name.toList) :
    ∃ written, written <+: entities ∧
      LeftBehind storage (writeSources storage o entities).1 o written := by
  have hstorage : (writeSources storage o entities).1 = (writing storage o entities).storage := rfl
  rw [hstorage, writing]
  cases hplan : plan storage o entities with
  | error failure => exact ⟨[], List.nil_prefix, LeftBehind.refl storage o⟩
  | ok planned =>
    obtain ⟨written, rest, rfl, hleft, -, -⟩ := writePlanned_spec hplan hnames
    exact ⟨written, List.prefix_append written rest, hleft⟩

/-- A generation keeps to the directory of the package: what changes is the file of a class in it,
or a new directory on the way to it. -/
def Confined (before after : Tree) (o : Options) (entities : List Entity) : Prop :=
  ∀ place, after.entry? place ≠ before.entry? place →
    (∃ e ∈ entities, place = before.placeOf o.packageDir ++ [e.name ++ ".java"]) ∨
      before.entry? place = none ∧ after.entry? place = some .directory ∧
        before.OnPath o.packageDir place

theorem confined_writeSources {storage : Tree} {o : Options} {entities : List Entity}
    (h : ∀ e ∈ entities, o.Holds e) :
    Confined storage (writeSources storage o entities).1 o entities := by
  have hnames : ∀ e ∈ entities, '/' ∉ e.name.toList := fun e he => (holds_iff o e).mp (h e he)
  obtain ⟨written, hwritten, hleft⟩ : ∃ written, written <+: entities ∧
      LeftBehind storage (writeSources storage o entities).1 o written :=
    leftBehind_writeSources hnames
  intro place hchanged
  by_cases hclass : ∃ e ∈ written, place = storage.placeOf (o.classPath e.name)
  · obtain ⟨e, he, rfl⟩ := hclass
    have hmem := hwritten.subset he
    exact .inl ⟨e, hmem, placeOf_classPath storage o (hnames e hmem)⟩
  · refine .inr ((hleft.others place fun e he heq => ?_).resolve_left hchanged)
    exact hclass ⟨e, he, heq⟩

/-- The class of a table stands in the directory of the package just where the part of the code that
it is named by has no slash, and a generation whose classes all stand there is confined to it. -/
theorem holds_iff_of_loadText {naming : Naming} {text : String} {entities : List Entity}
    (h : Model.loadText naming text = .ok entities) (o : Options) :
    (∃ root tables, Xml.parseDocument (Model.withoutMark text) = .ok root ∧
      Model.HoldsTables root tables ∧
      List.Forall₂ (fun table e => ∃ code, table.childText? "Code" = some code ∧
        e.name = naming.className code ∧
        (o.Holds e ↔ '/' ∉ (naming.namedPart code).toList)) tables entities) ∧
    ((∀ e ∈ entities, o.Holds e) →
      ∀ storage, Confined storage (writeSources storage o entities).1 o entities) := by
  refine ⟨?_, fun hholds storage => confined_writeSources hholds⟩
  obtain ⟨root, hroot, hentities⟩ := Model.loadText_eq_ok.mp h
  obtain ⟨tables, htables, hforall⟩ := Model.entitiesOfDocument_eq_ok.mp hentities
  refine ⟨root, tables, hroot, htables, hforall.imp fun table e he => ?_⟩
  obtain ⟨code, -, hcode, -, hname, -⟩ := he.code
  refine ⟨code, hcode, hname, ?_⟩
  rw [holds_iff, hname, Model.Naming.mem_className_iff Text.caseless_slash (by decide)]

/-! ### Codes with slashes -/

/-- A document with a table of a code. -/
def codedDocument (code : String) : String :=
  String.join ["<Model><Tables><Table Id='o1'><Code>", code, "</Code><Columns/></Table>",
    "</Tables></Model>"]

/-- What the document holds. -/
def codedRoot (code : String) : Xml.Element :=
  ⟨"Model", [], [⟨"Tables", [], [⟨"Table", [("Id", "o1")], [⟨"Code", [], [], code⟩,
    ⟨"Columns", [], [], ""⟩], ""⟩], ""⟩], ""⟩

/-- The entity of the table. -/
def codedEntity (code : String) : Entity :=
  { bareEntity (Naming.className {} code) with tableName := code, tableId := "o1" }

theorem withoutMark_codedDocument (code : String) :
    Model.withoutMark (codedDocument code) = codedDocument code :=
  Model.withoutMark_join rfl (by decide) _

theorem loadText_codedDocument {code : String}
    (hparse : Xml.parseDocument (codedDocument code) = .ok (codedRoot code)) :
    Model.loadText {} (codedDocument code) = .ok [codedEntity code] := by
  refine Model.loadText_eq_ok.mpr ⟨codedRoot code, by rw [withoutMark_codedDocument, hparse], ?_⟩
  refine Model.entitiesOfDocument_eq_ok.mpr ⟨_, ⟨_, rfl, rfl⟩, .cons ?_ .nil⟩
  refine ⟨rfl, rfl, rfl, rfl, ⟨code, ⟨"Columns", [], [], ""⟩, rfl, rfl, ?_, ?_, rfl, .nil⟩, ?_⟩
  · simp only [codedEntity, bareEntity]
  · have hprefix : Naming.sharedPrefix? {} = none := by decide +kernel
    rw [Naming.tableName, hprefix]
    rfl
  · intro name
    simp [codedEntity, bareEntity, Model.NameSet.ofList, Model.NameSet.empty]

theorem parseDocument_order :
    Xml.parseDocument (codedDocument "t_order") = .ok (codedRoot "t_order") := by
  rw [codedDocument, Xml.parseDocument_of_toList String.toList_join (by decide +kernel)]
  decide +kernel

/-- The class of an ordinary code stands in the directory of the package. -/
theorem holds_codedEntity :
    Model.loadText {} (codedDocument "t_order") = .ok [codedEntity "t_order"] ∧
      Options.Holds { package := "com.example" } (codedEntity "t_order") ∧
      ∀ storage, Confined storage
        (writeSources storage { package := "com.example" } [codedEntity "t_order"]).1
        { package := "com.example" } [codedEntity "t_order"] := by
  have hload := loadText_codedDocument parseDocument_order
  obtain ⟨⟨root, tables, hroot, ⟨holder, hholder, htables⟩, hforall⟩, hconfined⟩ :=
    holds_iff_of_loadText hload { package := "com.example" }
  rw [withoutMark_codedDocument, parseDocument_order] at hroot
  cases hroot
  cases hholder
  obtain ⟨table, rest, ⟨code, hcode, -, hiff⟩, -, heq⟩ := List.forall₂_cons_right_iff.mp hforall
  obtain rfl : code = "t_order" := by
    rw [← htables] at heq
    cases heq
    cases hcode
    rfl
  have hholds := hiff.mpr (by decide +kernel)
  exact ⟨hload, hholds, hconfined (List.forall_mem_singleton.mpr hholds)⟩

/-- A code that climbs out of the directory of the package names a class that is written beside that
directory, though the package is a valid one. -/
theorem not_holds_codedEntity :
    Model.loadText {} (codedDocument "../x") = .ok [codedEntity "../x"] ∧
      Options.validate { package := "com.example" } = .ok () ∧
      ¬ Options.Holds { package := "com.example" } (codedEntity "../x") ∧
      ¬ Confined {} (writeSources {} { package := "com.example" } [codedEntity "../x"]).1
        { package := "com.example" } [codedEntity "../x"] := by
  have hparse : Xml.parseDocument (codedDocument "../x") = .ok (codedRoot "../x") := by
    rw [codedDocument, Xml.parseDocument_of_toList String.toList_join (by decide +kernel)]
    decide +kernel
  have hname : (codedEntity "../x").name = "../x" := by decide +kernel
  have hsegments : Java.badSegment? "com.example" = none := by decide +kernel
  have hvalid : Options.validate { package := "com.example" } = .ok () := by
    rw [Options.validate, hsegments]
    rfl
  refine ⟨loadText_codedDocument hparse, hvalid, ?_, fun hconfined => ?_⟩
  · rw [holds_iff, hname]
    decide
  · have hwritten : Tree.entry? (writeSources {} { package := "com.example" }
        [codedEntity "../x"]).1 ["src", "main", "java", "com", "x.java"] ≠ none ∧
        Tree.entry? (writeSources {} { package := "com.example" }
          [codedEntity "../x"]).1 ["src", "main", "java", "com", "x.java"] ≠ some .directory := by
      decide +kernel
    rcases hconfined _ hwritten.1 with ⟨e, he, hplace⟩ | ⟨-, hdirectory, -⟩
    · rw [List.mem_singleton.mp he] at hplace
      revert hplace
      decide +kernel
    · exact hwritten.2 hdirectory

end EntityForge.Generation
