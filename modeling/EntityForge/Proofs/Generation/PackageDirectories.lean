import EntityForge.Proofs.Generation.Conflicts
import EntityForge.Proofs.Generation.Containment
import EntityForge.Proofs.Java.Imports

/-!
# Directories of packages

The directory of a valid package lies below the source root, one directory for each segment of the
package. No segment is written in a way that a path reads as anything but a name, so the names of
the directories, with dots between them, are the package again: two packages never share a
directory, and a class of a built-in style declares the package that the way to it spells. A class
name with a slash leads to another directory, though, and the class declares the package all the
same.
-/

namespace EntityForge.Generation

open Model (Entity Naming)
open Storage (Path Tree)

/-! ### Names of packages -/

/-- The names of the directories of a package: its segments, and none for the default package. -/
def packageNames (package : String) : List String :=
  if package = "" then [] else Java.segments package

/-- The root of the source tree. -/
def Options.sourceTree (o : Options) : Path := o.outputDir.join o.sourceRoot

/-- The names of its directories spell a package. -/
theorem intercalate_packageNames (package : String) :
    ".".intercalate (packageNames package) = package := by
  rw [packageNames]
  split_ifs with hempty
  · rw [hempty]
    rfl
  · exact Java.intercalate_segments package

theorem packageNames_inj {package package' : String}
    (h : packageNames package = packageNames package') : package = package' := by
  rw [← intercalate_packageNames package, h, intercalate_packageNames]

/-- The directories of a valid package are identifiers. -/
theorem isIdentifier_packageNames {package : String} (h : Java.IsPackage package) :
    ∀ name ∈ packageNames package, Java.isIdentifier name = true := by
  intro name hname
  rw [packageNames] at hname
  split_ifs at hname with hempty
  · cases hname
  · obtain ⟨names, hne, hnames, rfl⟩ := h.resolve_left hempty
    have hdot : ∀ name ∈ names, '.' ∉ name.toList := fun name hname =>
      Java.not_mem_of_isIdentifier (hnames name hname) (by decide) (by decide)
    rw [Java.segments_intercalate hne hdot] at hname
    exact hnames name hname

/-- A package has no character but dots and those that can start an identifier or stand in one. -/
theorem not_mem_of_isPackage {package : String} {c : Char} (h : Java.IsPackage package)
    (hdot : c ≠ '.') (hstarts : Java.startsIdentifier c = false)
    (hin : Java.inIdentifier c = false) : c ∉ package.toList := by
  intro hmem
  have hkept : c ∈ (package.toList.splitOnP (· == '.')).flatten := by
    rw [Text.flatten_splitOnP]
    exact List.mem_filter.mpr ⟨hmem, by simpa using hdot⟩
  obtain ⟨piece, hpiece, hc⟩ := List.mem_flatten.mp hkept
  have hne : package ≠ "" := by
    rintro rfl
    cases hmem
  have hname : String.ofList piece ∈ packageNames package := by
    rw [packageNames, if_neg hne]
    exact List.mem_map_of_mem hpiece
  refine Java.not_mem_of_isIdentifier (isIdentifier_packageNames h _ hname) hstarts hin ?_
  rwa [String.toList_ofList]

/-- A path reads an identifier as a name. -/
theorem isName_of_isIdentifier {name : String} (h : Java.isIdentifier name = true) :
    Path.IsName name := by
  have hdot : '.' ∉ name.toList := Java.not_mem_of_isIdentifier h (by decide) (by decide)
  refine ⟨Java.not_mem_of_isIdentifier h (by decide) (by decide), ?_, ?_, ?_⟩
  · rintro rfl
    cases h
  · rintro rfl
    exact hdot (by decide)
  · rintro rfl
    exact hdot (by decide)

variable {o o' : Options}

theorem isName_packageNames (h : o.validate = .ok ()) :
    ∀ name ∈ packageNames o.package, Path.IsName name := fun name hname =>
  isName_of_isIdentifier (isIdentifier_packageNames (validate_eq_ok.mp h) name hname)

/-! ### Directories -/

theorem packagePath_eq (h : o.validate = .ok ()) :
    packagePath o.package = Path.behind ⟨""⟩ (packageNames o.package) := by
  have hnames := isName_packageNames h
  rw [packagePath, Path.behind]
  rw [packageNames] at hnames ⊢
  split_ifs at hnames ⊢ with hempty
  · rw [hempty]
    rfl
  · have hkept : (Java.segments o.package).filter (· != "") = Java.segments o.package :=
      List.filter_eq_self.mpr fun name hname => bne_iff_ne.mpr (hnames name hname).ne_empty
    rw [hkept]

/-- The directory of a package is the path of its names behind the source root. -/
theorem packageDir_eq (h : o.validate = .ok ()) :
    o.packageDir = (o.sourceTree.join ⟨""⟩).behind (packageNames o.package) := by
  rw [Options.packageDir, packagePath_eq h, Path.join_behind]
  rfl

theorem components_packageDir (h : o.validate = .ok ()) :
    o.packageDir.components = o.sourceTree.components ++ (packageNames o.package).map .named := by
  rw [packageDir_eq h, Path.components_behind (isName_packageNames h), Path.components_join_empty]

theorem placeOf_packageDir (h : o.validate = .ok ()) (storage : Tree) :
    storage.placeOf o.packageDir = storage.placeOf o.sourceTree ++ packageNames o.package := by
  have hnames := isName_packageNames h
  have hstart := Tree.start_congr (t := storage) rfl
    ((Path.isAbsolute_behind hnames (o.sourceTree.join ⟨""⟩)).trans
      (Path.isAbsolute_join Path.isAbsolute_empty))
  have hsteps := Path.steps_join (p := o.sourceTree) Path.isAbsolute_empty
  rw [Path.steps_empty, List.append_nil] at hsteps
  rw [packageDir_eq h, Tree.placeOf, Tree.placeOf, Path.steps_behind hnames, hsteps,
    Storage.walk_append, Storage.walk_names fun name hname => (hnames name hname).ne_dots, hstart]

/-! ### Declared packages -/

/-- The package that the text of a class declares; the default one if it declares none. -/
def declaredPackage (text : String) : String :=
  match text.toList.dropPrefix? "package ".toList with
  | some rest => String.ofList (rest.takeWhile (· != ';'))
  | none => ""

theorem declaredPackage_of_prefix {package text rest : String} (hend : ';' ∉ package.toList)
    (htext : text = "package " ++ package ++ ";" ++ rest) : declaredPackage text = package := by
  have hdrop : text.toList.dropPrefix? "package ".toList =
      some (package.toList ++ ';' :: rest.toList) := by
    refine List.dropPrefix?_eq_some_iff.mpr ⟨_, ?_, beq_self_eq_true "package ".toList⟩
    rw [htext]
    simp
  have hstop : ∀ c ∈ package.toList, (c != ';') = true := fun c hc =>
    bne_iff_ne.mpr (by rintro rfl; exact hend hc)
  rw [declaredPackage, hdrop]
  simp only
  rw [Text.takeWhile_append_cons _ hstop (by decide), String.ofList_toList]

theorem declaredPackage_of_head {text : String} {c : Char} (hhead : text.toList.head? = some c)
    (hc : c ≠ 'p') : declaredPackage text = "" := by
  have hnone : text.toList.dropPrefix? "package ".toList = none := by
    cases hdrop : text.toList.dropPrefix? "package ".toList with
    | none => rfl
    | some rest =>
      obtain ⟨front, htext, hfront⟩ := List.dropPrefix?_eq_some_iff.mp hdrop
      rw [htext, eq_of_beq hfront] at hhead
      exact absurd (Option.some.inj hhead).symm hc
  rw [declaredPackage, hnone]

/-- A class of a built-in style declares its package. -/
theorem declaredPackage_textOf {package : String} (h : Java.IsPackage package) (style : Java.Style)
    (e : Entity) : declaredPackage (Java.textOf (Java.classLines style package e)) = package := by
  rw [Java.classLines_eq, Java.packageText]
  by_cases hempty : package = ""
  · -- the text begins with an import or with the comment on the class
    rw [if_pos hempty, hempty]
    cases (Java.imports style e).names with
    | nil => exact declaredPackage_of_head (c := '/') (by simp [Java.textOf, Java.paragraph,
        Java.importLines]) (by decide)
    | cons name names => exact declaredPackage_of_head (c := 'i') (by simp [Java.textOf,
        Java.paragraph, Java.importLines]) (by decide)
  · have hend : ';' ∉ package.toList :=
      not_mem_of_isPackage h (by decide) (by decide) (by decide)
    have hfirst : Java.textOf (Java.paragraph ["package " ++ package ++ ";"]) =
        "package " ++ package ++ ";" ++ "\n\n" := by
      simp [Java.textOf, Java.paragraph, String.join, String.append_assoc]
    rw [if_neg hempty, hfirst]
    exact declaredPackage_of_prefix hend (String.append_assoc ..)

/-- The way from the source root to the class of an entity spells the package that its text
declares. -/
def Options.Spells (storage : Tree) (o : Options) (e : Entity) (text : String) : Prop :=
  ∃ names file, storage.placeOf (o.classPath e.name) =
      storage.placeOf o.sourceTree ++ names ++ [file] ∧
    ".".intercalate names = declaredPackage text

theorem spells_of_not_mem (h : o.validate = .ok ()) (storage : Tree) {e : Entity} {text : String}
    (hname : '/' ∉ e.name.toList) (htext : declaredPackage text = o.package) :
    o.Spells storage e text := by
  refine ⟨packageNames o.package, e.name ++ ".java", ?_, ?_⟩
  · rw [placeOf_classPath storage o hname, placeOf_packageDir h]
  · rw [intercalate_packageNames, htext]

/-- The directory of a valid package lies below the source root, one directory for each segment. The
way to a class of a built-in style spells the package that the class declares, unless the name of
the class has a slash, and no two valid packages share a directory. -/
theorem spells_packageDir (h : o.validate = .ok ()) :
    o.packageDir.components = o.sourceTree.components ++ (packageNames o.package).map .named ∧
      (o.templateFile = none → ∀ storage e, ∃ text, renderEntity storage o e = .ok text ∧
        declaredPackage text = o.package ∧
        ('/' ∉ e.name.toList → o.Spells storage e text)) ∧
      ∀ o' : Options, o'.validate = .ok () → o'.sourceTree = o.sourceTree →
        o'.package ≠ o.package → o'.packageDir.components ≠ o.packageDir.components ∧
          ∀ storage : Tree, storage.placeOf o'.packageDir ≠ storage.placeOf o.packageDir := by
  refine ⟨components_packageDir h, fun hstyle storage e => ?_, fun o' h' htree hne => ⟨?_, ?_⟩⟩
  · have hdeclared := declaredPackage_textOf (validate_eq_ok.mp h) o.style e
    exact ⟨_, Java.renderEntity_of_style hstyle e, hdeclared,
      fun hname => spells_of_not_mem h storage hname hdeclared⟩
  · intro hsame
    rw [components_packageDir h, components_packageDir h', htree] at hsame
    have hnames := List.map_injective_iff.mpr (fun _ _ => Storage.Component.named.inj)
      (List.append_cancel_left hsame)
    exact hne (packageNames_inj hnames)
  · intro storage hsame
    rw [placeOf_packageDir h, placeOf_packageDir h', htree] at hsame
    exact hne (packageNames_inj (List.append_cancel_left hsame))

/-- The package `com.example` has the directory `com/example`, which an ordinary class declares. -/
theorem spells_com_example :
    Options.validate { package := "com.example" } = .ok () ∧
      Options.packageDir { package := "com.example" } = ⟨"./src/main/java/com/example"⟩ ∧
      ∃ text, renderEntity {} { package := "com.example" } (bareEntity "Order") = .ok text ∧
        Options.Spells {} { package := "com.example" } (bareEntity "Order") text := by
  have hvalid : Options.validate { package := "com.example" } = .ok () := by decide +kernel
  obtain ⟨-, hclass, -⟩ := spells_packageDir hvalid
  obtain ⟨text, htext, -, hspells⟩ := hclass rfl {} (bareEntity "Order")
  exact ⟨hvalid, by decide +kernel, text, htext, hspells (by decide)⟩

/-- A code that climbs out of the directory of the package names a class that is written to the
directory `com`, though it declares the package `com.example`. -/
theorem not_spells_codedEntity :
    Model.loadText {} (codedDocument "../x") = .ok [codedEntity "../x"] ∧
      Options.validate { package := "com.example" } = .ok () ∧
      ∃ after files text,
        writeSources {} { package := "com.example" } [codedEntity "../x"] = (after, .ok files) ∧
        renderEntity {} { package := "com.example" } (codedEntity "../x") = .ok text ∧
        Tree.entry? after ["src", "main", "java", "com", "x.java"] = some (.file text.toUTF8) ∧
        ¬ Options.Spells {} { package := "com.example" } (codedEntity "../x") text := by
  have hparse : Xml.parseDocument (codedDocument "../x") = .ok (codedRoot "../x") := by
    rw [codedDocument, Xml.parseDocument_of_toList String.toList_join (by decide +kernel)]
    decide +kernel
  have hvalid : Options.validate { package := "com.example" } = .ok () := by decide +kernel
  have hwritten :
      (writing {} { package := "com.example" } [codedEntity "../x"]).failure = none := by
    decide +kernel
  refine ⟨loadText_codedDocument hparse, hvalid, _, _, _, writeSources_eq_ok.mpr
    ⟨rfl, hwritten, rfl⟩, Java.renderEntity_of_style rfl _, by decide +kernel, ?_⟩
  rintro ⟨names, file, hplace, hspelled⟩
  have hclass :
      Tree.placeOf {} (Options.classPath { package := "com.example" } (codedEntity "../x").name) =
        Tree.placeOf {} (Options.sourceTree { package := "com.example" }) ++ ["com"] ++
          ["x.java"] := by decide +kernel
  rw [hclass] at hplace
  obtain ⟨hnames, -⟩ := List.append_inj' hplace rfl
  obtain rfl := List.append_cancel_left hnames
  revert hspelled
  decide +kernel

end EntityForge.Generation
