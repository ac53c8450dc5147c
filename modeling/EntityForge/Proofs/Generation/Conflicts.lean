import EntityForge.Proofs.Generation.Keeping
import EntityForge.Proofs.Java.Packages
import EntityForge.Proofs.Storage.Components
import Mathlib.Data.List.Nodup

/-!
# Conflicts

A generation in a style is refused for its package or for one of its entities. An entity is in
conflict if two of its fields have one name, or else if an entity before it has the same path, or
else if its file exists already and may not be replaced. The generation is refused at the first
entity that is in conflict, for the conflict that comes first in this order, and the refusal names
what is in conflict: the two columns, the class and the table of the later entity, or the file.
Where no directory and no file fails to be made, it succeeds just where its package is one and no
entity is in conflict.
-/

namespace EntityForge.Generation

open Model (Entity Field)
open Outcome
open Storage (Path Tree)

/-! ### Fields of one name -/

/-- The earliest clash among some fields: the second is the first field that has the name of one
before it, and the first is the one that it has the name of. -/
def EarliestClash (fields : List Field) (first second : Field) : Prop :=
  ∃ before after, fields = before ++ second :: after ∧ (before.map (·.name)).Nodup ∧
    first ∈ before ∧ first.name = second.name

theorem EarliestClash.not_nodup {fields : List Field} {first second : Field}
    (h : EarliestClash fields first second) : ¬ (fields.map (·.name)).Nodup := by
  obtain ⟨before, after, rfl, -, hfirst, hname⟩ := h
  intro hnodup
  rw [List.map_append, List.map_cons, List.nodup_append] at hnodup
  exact hnodup.2.2 _ (List.mem_map_of_mem hfirst) _ List.mem_cons_self hname

/-- The clash that is found behind fields of different names is the earliest one. The fields in
front are listed last first. -/
theorem exists_of_fieldClash?_eq_some {seen fields : List Field} {first second : Field}
    (hseen : (seen.map (·.name)).Nodup) (h : fieldClash? seen fields = some (first, second)) :
    ∃ before after, fields = before ++ second :: after ∧
      ((seen.reverse ++ before).map (·.name)).Nodup ∧ first ∈ seen.reverse ++ before ∧
      first.name = second.name := by
  induction fields generalizing seen with
  | nil => cases h
  | cons f rest ih =>
    rw [fieldClash?] at h
    split at h
    · next found hfind =>
      cases h
      refine ⟨[], rest, rfl, ?_, ?_, by simpa using List.find?_some hfind⟩
      · rw [List.append_nil, List.map_reverse]
        exact List.nodup_reverse.mpr hseen
      · simpa using List.mem_of_find?_eq_some hfind
    · next hfind =>
      have hnew : f.name ∉ seen.map (·.name) := by
        intro hmem
        obtain ⟨b, hb, hname⟩ := List.mem_map.mp hmem
        exact List.find?_eq_none.mp hfind b hb (beq_iff_eq.mpr hname)
      have hseen' : ((f :: seen).map (·.name)).Nodup := List.nodup_cons.mpr ⟨hnew, hseen⟩
      obtain ⟨before, after, rfl, hnodup, hfirst, hname⟩ := ih hseen' h
      have hmove : (f :: seen).reverse ++ before = seen.reverse ++ f :: before := by simp
      rw [hmove] at hnodup hfirst
      exact ⟨f :: before, after, rfl, hnodup, hfirst, hname⟩

theorem earliestClash_of_fieldClash? {fields : List Field} {first second : Field}
    (h : fieldClash? [] fields = some (first, second)) : EarliestClash fields first second := by
  have hnone : (([] : List Field).map (·.name)).Nodup := List.nodup_nil
  exact exists_of_fieldClash?_eq_some hnone h

/-! ### One entity -/

/-- Two entities whose classes have the same path. -/
def SamePath (o : Options) (e e' : Entity) : Prop :=
  (o.classPath e.name).components = (o.classPath e'.name).components

/-- What an entity is refused for that stands behind others, with the words of the refusal. -/
inductive Conflict (storage : Tree) (o : Options) (before : List Entity) (e : Entity) :
    String → Prop
  /-- Two of its fields have one name. The refusal names the columns of the two. -/
  | fields {first second : Field} : EarliestClash e.fields first second →
    Conflict storage o before e ("columns " ++ first.colName ++ " and " ++ second.colName ++
      " of table " ++ e.tableName ++ " both map to field " ++ second.name)
  /-- An entity before it has the same path. The refusal names the class and the table of the
  later entity. -/
  | path {other : Entity} : (e.fields.map (·.name)).Nodup → other ∈ before → SamePath o other e →
    Conflict storage o before e ("entity name " ++ e.name ++
      " is generated by more than one table (" ++ e.tableName ++ ")")
  /-- Its file exists already and may not be replaced. The refusal names the file. -/
  | existing : (e.fields.map (·.name)).Nodup → (∀ other ∈ before, ¬ SamePath o other e) →
    storage.exists? (o.classPath e.name) = true → o.overwrite = false →
    Conflict storage o before e ((o.classPath e.name).text ++
      " already exists; enable overwrite to replace it")

variable {storage : Tree} {o : Options} {style : Java.Style} {before entities : List Entity}
  {e : Entity} {failure : Failure} {words : String}

theorem message_refusal (words : String) : (Failure.refusal words).message = words := by
  simp [Failure.refusal, Failure.message, Failure.messages, Root.messages]

theorem invalidPackageMessage_eq (package segment : String) :
    invalidPackageMessage package segment = "invalid package name '" ++ package ++
      "': segment '" ++ segment ++ "' is not a Java identifier" := rfl

theorem fieldClashMessage_eq (e : Entity) (first second : Field) :
    fieldClashMessage e first second = "columns " ++ first.colName ++ " and " ++ second.colName ++
      " of table " ++ e.tableName ++ " both map to field " ++ second.name := by
  have hjoined : " both map to field " = " " ++ "both map to field " := rfl
  -- An equation of the definition is slow to make: its texts would be compared piece by piece.
  delta fieldClashMessage
  simp only [toString, hjoined, String.append_assoc]

theorem classClashMessage_eq (e : Entity) :
    classClashMessage e = "entity name " ++ e.name ++ " is generated by more than one table (" ++
      e.tableName ++ ")" := rfl

theorem existingMessage_eq (path : Path) :
    existingMessage path = path.text ++ " already exists; enable overwrite to replace it" := rfl

/-- The paths of the classes of some entities, the last one first. -/
def pathsOf (o : Options) (entities : List Entity) : List Path :=
  (entities.map fun e => o.classPath e.name).reverse

theorem any_same_pathsOf :
    (pathsOf o before).any (o.classPath e.name).same = true ↔
      ∃ other ∈ before, SamePath o other e := by
  simp only [pathsOf, List.any_reverse, List.any_map, List.any_eq_true, Function.comp_apply,
    Path.same_iff]
  exact exists_congr fun other => and_congr_right fun _ => eq_comm

/-- An entity that is refused is in conflict. -/
theorem conflict_of_planOne
    (h : planOne storage o (.style style) (pathsOf o before) e = .error failure) :
    ∃ words, failure = .refusal words ∧ Conflict storage o before e words := by
  rw [planOne_eq] at h
  split at h
  · next first second hclash =>
    cases h
    refine ⟨_, rfl, ?_⟩
    rw [fieldClashMessage_eq]
    exact .fields (earliestClash_of_fieldClash? hclash)
  · next hnone =>
    have hfields := (fieldClash?_eq_none.mp hnone).1
    split_ifs at h with hsame hexists
    · cases h
      refine ⟨_, rfl, ?_⟩
      rw [classClashMessage_eq]
      obtain ⟨other, hother, hpath⟩ := any_same_pathsOf.mp hsame
      exact .path hfields hother hpath
    · cases h
      refine ⟨_, rfl, ?_⟩
      rw [existingMessage_eq]
      obtain ⟨hthere, hkeep⟩ := Bool.and_eq_true_iff.mp hexists
      refine .existing hfields (fun other hother hpath => ?_) hthere (by simpa using hkeep)
      exact hsame (any_same_pathsOf.mpr ⟨other, hother, hpath⟩)
    · cases h

/-- An entity whose file is planned is not in conflict. -/
theorem not_conflict_of_planOne {p : Planned}
    (h : planOne storage o (.style style) (pathsOf o before) e = .ok p) :
    ¬ Conflict storage o before e words := by
  obtain ⟨hp, hfree⟩ := planOne_eq_ok.mp h
  intro hconflict
  cases hconflict with
  | fields hclash => exact hclash.not_nodup (fieldClash?_eq_none.mp hp.fields).1
  | path _ hother hpath =>
    have hsame : (pathsOf o before).any (o.classPath e.name).same = true :=
      any_same_pathsOf.mpr ⟨_, hother, hpath⟩
    obtain ⟨q, hq, hqsame⟩ := List.any_eq_true.mp hsame
    have hdifferent := hfree q hq
    rw [hp.path, hqsame] at hdifferent
    cases hdifferent
  | existing _ _ hthere hkeep =>
    rw [← hp.path] at hthere
    rw [hp.free hthere] at hkeep
    cases hkeep

/-! ### All entities -/

/-- Entities of which none is in conflict behind those before it. -/
def Peaceful (storage : Tree) (o : Options) (entities : List Entity) : Prop :=
  ∀ before e after, entities = before ++ e :: after → ∀ words,
    ¬ Conflict storage o before e words

/-- A plan that fails fails at an entity, and the files of those before it are planned. -/
theorem exists_of_planAll_eq_error {origin : Origin} {seen : List Path}
    (h : planAll storage o origin seen entities = .error failure) :
    ∃ before e after planned, entities = before ++ e :: after ∧
      planAll storage o origin seen before = .ok planned ∧
      planOne storage o origin ((planned.map (·.path)).reverse ++ seen) e = .error failure := by
  induction entities generalizing seen with
  | nil => cases h
  | cons e rest ih =>
    rw [planAll] at h
    rcases bind_eq_error.mp h with hone | ⟨p, hone, h⟩
    · exact ⟨[], e, rest, [], rfl, rfl, hone⟩
    · rcases bind_eq_error.mp h with htail | ⟨tail, -, h⟩
      · obtain ⟨before, e', after, planned, rfl, hbefore, herror⟩ := ih htail
        refine ⟨e :: before, e', after, p :: planned, rfl, ?_, by simpa using herror⟩
        rw [planAll, hone, ok_bind, hbefore]
        rfl
      · cases h

/-- Entities whose files are planned are in no conflict. -/
theorem peaceful_of_planAll {planned : List Planned}
    (h : planAll storage o (.style style) [] entities = .ok planned) :
    Peaceful storage o entities := by
  rintro before e after rfl words
  rw [planAll_append] at h
  obtain ⟨front, hfront, h⟩ := bind_eq_ok.mp h
  obtain ⟨back, hback, -⟩ := map_eq_ok.mp h
  rw [List.append_nil, planAll] at hback
  obtain ⟨p, hone, -⟩ := bind_eq_ok.mp hback
  rw [map_path_eq (planAll_eq_ok.mp hfront).1] at hone
  exact not_conflict_of_planOne hone

/-- A plan that fails fails at the first entity that is in conflict. -/
theorem exists_conflict_of_planAll
    (h : planAll storage o (.style style) [] entities = .error failure) :
    ∃ before e after words, entities = before ++ e :: after ∧ Peaceful storage o before ∧
      failure = .refusal words ∧ Conflict storage o before e words := by
  obtain ⟨before, e, after, planned, hsplit, hbefore, hone⟩ := exists_of_planAll_eq_error h
  rw [map_path_eq (planAll_eq_ok.mp hbefore).1, List.append_nil] at hone
  obtain ⟨words, hfailure, hconflict⟩ := conflict_of_planOne hone
  exact ⟨before, e, after, words, hsplit, peaceful_of_planAll hbefore, hfailure, hconflict⟩

/-! ### What is accepted -/

/-- What a generation in a style is asked for and accepts. -/
structure Acceptable (storage : Tree) (o : Options) (entities : List Entity) : Prop where
  /-- The package is one. -/
  package : Java.IsPackage o.package
  /-- No entity has two fields of one name. -/
  fields : ∀ e ∈ entities, (e.fields.map (·.name)).Nodup
  /-- No two entities have the same path. -/
  paths : entities.Pairwise fun e e' => ¬ SamePath o e e'
  /-- Files may be replaced, or there are none. -/
  free : o.overwrite = true ∨ ∀ e ∈ entities, storage.exists? (o.classPath e.name) = false

/-- The file of the class of an entity in the style of some options. -/
def styledFile (o : Options) (e : Entity) : Planned :=
  ⟨o.classPath e.name, Java.classText o.style o.package e⟩

/-- A file in a style is planned for the class of an entity whose fields have different names, if
nothing is replaced against the options. -/
theorem plannedFrom_style_iff {p : Planned} :
    PlannedFrom storage o (.style o.style) e p ↔ p = styledFile o e ∧
      (e.fields.map (·.name)).Nodup ∧
      (storage.exists? (o.classPath e.name) = true → o.overwrite = true) := by
  constructor
  · intro h
    have hsource : p.source = Java.classText o.style o.package e := (Except.ok.inj h.source).symm
    refine ⟨?_, (fieldClash?_eq_none.mp h.fields).1, h.path ▸ h.free⟩
    rw [styledFile, ← h.path, ← hsource]
  · rintro ⟨rfl, hfields, hfree⟩
    exact ⟨fieldClash?_eq_none.mpr ⟨hfields, fun _ _ _ hb => nomatch hb⟩, rfl, hfree, rfl⟩

theorem forall₂_plannedFrom_style {planned : List Planned} :
    List.Forall₂ (PlannedFrom storage o (.style o.style)) entities planned ↔
      planned = entities.map (styledFile o) ∧ ∀ e ∈ entities, (e.fields.map (·.name)).Nodup ∧
        (storage.exists? (o.classPath e.name) = true → o.overwrite = true) := by
  induction entities generalizing planned with
  | nil => simp
  | cons e rest ih =>
    rw [List.map_cons, List.forall_mem_cons]
    constructor
    · intro h
      cases h with
      | cons hp hrest =>
        obtain ⟨rfl, he⟩ := plannedFrom_style_iff.mp hp
        obtain ⟨rfl, hall⟩ := ih.mp hrest
        exact ⟨rfl, he, hall⟩
    · rintro ⟨rfl, he, hall⟩
      exact .cons (plannedFrom_style_iff.mpr ⟨rfl, he⟩) (ih.mpr ⟨rfl, hall⟩)

/-- Where nothing is replaced against the options, files may be replaced or there are none. -/
theorem forall_overwrite_iff :
    (∀ e ∈ entities, storage.exists? (o.classPath e.name) = true → o.overwrite = true) ↔
      o.overwrite = true ∨ ∀ e ∈ entities, storage.exists? (o.classPath e.name) = false := by
  cases o.overwrite with
  | false => simp
  | true => simp

theorem validate_eq_ok : o.validate = .ok () ↔ Java.IsPackage o.package := by
  rw [← Java.badSegment?_eq_none, Options.validate]
  cases Java.badSegment? o.package with
  | none => exact iff_of_true rfl rfl
  | some segment => exact iff_of_false (fun h => nomatch h) (Option.some_ne_none _)

theorem exists_of_validate_eq_error (h : o.validate = .error failure) :
    ∃ segment, Java.badSegment? o.package = some segment ∧
      failure = .refusal ("invalid package name '" ++ o.package ++ "': segment '" ++ segment ++
        "' is not a Java identifier") := by
  rw [Options.validate] at h
  split at h
  · next segment hsegment =>
    cases h
    exact ⟨segment, hsegment, by rw [invalidPackageMessage_eq]⟩
  · cases h

/-- What can be planned in a style is what is accepted. -/
theorem exists_plan_iff (hstyle : o.templateFile = none) :
    (∃ planned, plan storage o entities = .ok planned) ↔ Acceptable storage o entities := by
  simp only [plan_eq_ok, validate_eq_ok, origin_of_style hstyle, Except.ok.injEq,
    exists_eq_left', planAll_eq_ok, forall₂_plannedFrom_style]
  constructor
  · rintro ⟨planned, hpackage, ⟨rfl, hall⟩, -, hpaths⟩
    have hfree := forall_overwrite_iff.mp fun e he => (hall e he).2
    refine ⟨hpackage, fun e he => (hall e he).1, ?_, hfree⟩
    refine (List.pairwise_map.mp hpaths).imp fun {e e'} hdifferent hsame => ?_
    rw [styledFile, styledFile, Path.same_iff.mpr hsame.symm] at hdifferent
    cases hdifferent
  · intro h
    have hfree := forall_overwrite_iff.mpr h.free
    refine ⟨_, h.package, ⟨rfl, fun e he => ⟨h.fields e he, hfree e he⟩⟩, by simp, ?_⟩
    refine List.pairwise_map.mpr (h.paths.imp fun {e e'} hdifferent => ?_)
    exact Bool.eq_false_iff.mpr fun hsame => hdifferent (Path.same_iff.mp hsame).symm

/-! ### Generations -/

/-- No directory and no file of a plan fails to be made: the directory of the classes can be made
if it is missing, and each file can be written behind those before it. -/
structure Unhindered (storage : Tree) (o : Options) (planned : List Planned) : Prop where
  /-- The directory can be made. -/
  directory : lacksDirectory storage o = true →
    ∃ t, storage.makeDirectories o.packageDir = (t, .ok ())
  /-- The files can be written. -/
  files : ∀ before p after, planned = before ++ p :: after →
    ∃ t, (writeAll (prepared storage o) before).storage.writeText p.path p.source = .ok t

/-- All files are written just where each can be written behind those before it. -/
theorem failure_writeAll_eq_none {t : Tree} {planned : List Planned} :
    (writeAll t planned).failure = none ↔ ∀ before p after, planned = before ++ p :: after →
      ∃ t', (writeAll t before).storage.writeText p.path p.source = .ok t' := by
  induction planned generalizing t with
  | nil => exact iff_of_true rfl fun before p after h => by simp at h
  | cons p rest ih =>
    constructor
    · intro h before p' after hsplit
      cases hwrite : t.writeText p.path p.source with
      | error cause =>
        simp only [writeAll, hwrite, storing, Except.mapError] at h
        cases h
      | ok t' =>
        cases before with
        | nil =>
          cases hsplit
          exact ⟨t', hwrite⟩
        | cons q before =>
          cases hsplit
          rw [(writeAll_cons_of_ok hwrite _).2] at h
          rw [(writeAll_cons_of_ok hwrite _).1]
          exact ih.mp h before p' after rfl
    · intro h
      obtain ⟨t', hwrite⟩ : ∃ t', t.writeText p.path p.source = .ok t' := h [] p rest rfl
      rw [(writeAll_cons_of_ok hwrite rest).2]
      refine ih.mpr fun before p' after hsplit => ?_
      rw [← (writeAll_cons_of_ok hwrite before).1]
      exact h (p :: before) p' after (by rw [hsplit, List.cons_append])

/-- A plan is written with no failure just where nothing hinders it. -/
theorem unhindered_iff {planned : List Planned} :
    Unhindered storage o planned ↔ (writePlanned storage o planned).failure = none := by
  rw [writePlanned]
  have hiff : Unhindered storage o planned ↔ (lacksDirectory storage o = true →
      ∃ t, storage.makeDirectories o.packageDir = (t, .ok ())) ∧
      (writeAll (prepared storage o) planned).failure = none := by
    rw [failure_writeAll_eq_none]
    exact ⟨fun h => ⟨h.directory, h.files⟩, fun h => ⟨h.1, h.2⟩⟩
  rw [hiff, prepared]
  split_ifs with hlacks
  · cases hmake : storage.makeDirectories o.packageDir with
    | mk t result =>
      cases result with
      | ok => simp [hlacks]
      | error cause => simp [hlacks]
  · simp [hlacks]

/-- A generation in a style that no directory and no file hinders succeeds just where it is asked
for what is accepted. Where it fails, its package is none, or the failure shows the words for the
first conflict of the first entity that is in conflict. -/
theorem isOk_writeSources_iff (hstyle : o.templateFile = none)
    (hfree : ∀ planned, plan storage o entities = .ok planned → Unhindered storage o planned) :
    ((writeSources storage o entities).2.isOk = true ↔ Acceptable storage o entities) ∧
      ∀ failure, (writeSources storage o entities).2 = .error failure →
        (∃ segment, Java.badSegment? o.package = some segment ∧
            failure = .refusal ("invalid package name '" ++ o.package ++ "': segment '" ++
              segment ++ "' is not a Java identifier")) ∨
          Java.IsPackage o.package ∧ failure = .refusal failure.message ∧
            ∃ before e after, entities = before ++ e :: after ∧ Peaceful storage o before ∧
              Conflict storage o before e failure.message := by
  rw [← exists_plan_iff hstyle]
  cases hplan : plan storage o entities with
  | ok planned =>
    have hnone := unhindered_iff.mp (hfree planned hplan)
    rw [writeSources_of_plan hplan]
    dsimp only
    rw [Writing.result, hnone]
    refine ⟨iff_of_true rfl ⟨planned, rfl⟩, fun failure h => ?_⟩
    cases h
  | error f =>
    have hresult : (writeSources storage o entities).2 = .error f := by
      rw [writeSources, writing, hplan]
      rfl
    rw [hresult]
    refine ⟨iff_of_false Bool.false_ne_true ?_, fun failure h => ?_⟩
    · rintro ⟨planned, h⟩
      cases h
    · cases h
      rw [plan] at hplan
      rcases bind_eq_error.mp hplan with hpackage | ⟨_, hvalid, hplan⟩
      · exact .inl (exists_of_validate_eq_error hpackage)
      · rw [origin_of_style hstyle, ok_bind] at hplan
        obtain ⟨before, e, after, words, hsplit, hpeaceful, rfl, hconflict⟩ :=
          exists_conflict_of_planAll hplan
        rw [message_refusal]
        exact .inr ⟨validate_eq_ok.mp hvalid, rfl, before, e, after, hsplit, hpeaceful, hconflict⟩

/-- A column with nothing but its names. -/
def bareField (colName name : String) : Field :=
  { entityName := "", colId := "", colName, name, colType := "", javaType := .string
    typeQualifiedName := none, colLength := none, comment := none, mandatory := false
    isPrimaryKey := false }

/-- An entity with two columns of one field name. -/
def crowdedEntity (name : String) : Entity :=
  { bareEntity name with
    tableName := "t_" ++ name
    fields := [bareField "A_B" "aB", bareField "ID" "id", bareField "A__B" "aB"] }

/-- A second class `B` whose columns and whose path clash, and a class that is there. -/
def contested : List Entity := [bareEntity "B", crowdedEntity "B", bareEntity "A"]

/-- A second class `B` whose path clashes, and a class that is there. -/
def doubled : List Entity :=
  [bareEntity "B", { bareEntity "B" with tableName := "t_B" }, bareEntity "A"]

/-- A class that is there, and a second one of its path. -/
def standing : List Entity := [bareEntity "B", bareEntity "A", bareEntity "A"]

/-- Entities are refused in some words, which are those for the first one that is in conflict. -/
def RefusedIn (storage : Tree) (o : Options) (entities : List Entity) (words : String) : Prop :=
  (writeSources storage o entities).2 = .error (.refusal words) ∧
    ∃ before e after, entities = before ++ e :: after ∧ Peaceful storage o before ∧
      Conflict storage o before e words

/-- The classes `B` and `C` are written. A second class `B` is refused for its columns, although its
path clashes as well, and for its path, although the class `A` behind it is there already. The class
`A` is refused for its file if it comes first. -/
theorem isOk_writeSources_furnished :
    (writeSources furnished {} [bareEntity "B", bareEntity "C"]).2.isOk = true ∧
      RefusedIn furnished {} contested
        "columns A_B and A__B of table t_B both map to field aB" ∧
      RefusedIn furnished {} doubled
        "entity name B is generated by more than one table (t_B)" ∧
      RefusedIn furnished {} standing
        "./src/main/java/A.java already exists; enable overwrite to replace it" := by
  constructor
  · have hwritten : (writing furnished {} [bareEntity "B", bareEntity "C"]).failure = none := by
      decide +kernel
    refine (isOk_writeSources_iff rfl fun planned hplan => ?_).1.mpr ⟨.inl rfl, ?_, ?_, .inr ?_⟩
    · rw [writing, hplan] at hwritten
      exact unhindered_iff.mpr hwritten
    · decide
    · refine List.pairwise_pair.mpr ?_
      rw [SamePath]
      decide +kernel
    · decide +kernel
  · have hrefused : ∀ entities words, plan furnished {} entities = .error (.refusal words) →
        RefusedIn furnished {} entities words := by
      intro entities words hplan
      have hfree : ∀ planned, plan furnished {} entities = .ok planned →
          Unhindered furnished {} planned := fun planned h => by
        rw [hplan] at h
        cases h
      have hfailed : (writeSources furnished {} entities).2 = .error (.refusal words) := by
        rw [writeSources, writing, hplan]
        rfl
      rcases (isOk_writeSources_iff rfl hfree).2 _ hfailed with ⟨segment, hbad, -⟩ | ⟨-, -, hfirst⟩
      · cases hbad
      · rw [message_refusal] at hfirst
        exact ⟨hfailed, hfirst⟩
    exact ⟨hrefused _ _ rfl, hrefused _ _ rfl, hrefused _ _ (by decide +kernel)⟩

end EntityForge.Generation
