import EntityForge.Generation.Settings
import Mathlib.Data.List.Induction

/-!
# Settings overridden again and again

Records of overrides can be applied one after another. Each setting then has the value of the last
record that gave one, and the value at the start if none did. Two settings depart from this rule. A
record that gives a style or a template file decides about the template file, so a style without a
file takes the file away. And nothing turns overwriting off again.

To apply a record again changes nothing, and two records in a row are as good as a single one, which
does not depend on the settings.
-/

namespace EntityForge.Generation

attribute [ext] Settings

variable {α : Type}

/-! ### The last record that gives a value -/

/-- A value is the one of the last record that gives one, or the one at the start if no record
does. -/
inductive LastGiven (gives : Overrides → Option α) (start : α) (records : List Overrides) : α → Prop
  /-- No record gives a value. -/
  | start : (∀ o ∈ records, gives o = none) → LastGiven gives start records start
  /-- A record gives the value, and no record behind it gives any. -/
  | given {before after : List Overrides} {o : Overrides} {v : α} :
    records = before ++ o :: after → gives o = some v → (∀ o' ∈ after, gives o' = none) →
    LastGiven gives start records v

section

variable {gives : Overrides → Option α} {start v : α}

theorem lastGiven_nil : LastGiven gives start [] v ↔ v = start := by
  constructor
  · rintro (- | ⟨heq, -, -⟩)
    · rfl
    · simp at heq
  · rintro rfl
    exact .start nofun

/-- One more record has the last word, or leaves it to those before. -/
theorem lastGiven_concat {records : List Overrides} {o : Overrides} :
    LastGiven gives start (records ++ [o]) v ↔
      gives o = some v ∨ gives o = none ∧ LastGiven gives start records v := by
  constructor
  · rintro (hnone | @⟨before, after, o', _, heq, hgives, hnone⟩)
    · obtain ⟨hrecords, ho⟩ := List.forall_mem_append.mp hnone
      exact .inr ⟨ho o List.mem_cons_self, .start hrecords⟩
    · rcases after.eq_nil_or_concat with rfl | ⟨middle, last, rfl⟩
      · obtain ⟨-, hlast⟩ := List.append_inj' heq rfl
        obtain rfl := (List.cons.inj hlast).1
        exact .inl hgives
      · rw [List.concat_eq_append, ← List.cons_append, ← List.append_assoc] at heq
        obtain ⟨hrecords, hlast⟩ := List.append_inj' heq rfl
        obtain rfl := (List.cons.inj hlast).1
        obtain ⟨hmiddle, ho⟩ := List.forall_mem_append.mp (List.concat_eq_append ▸ hnone)
        exact .inr ⟨ho o List.mem_cons_self, .given hrecords hgives hmiddle⟩
  · rintro (hgives | ⟨hnone, hrecords⟩)
    · exact .given rfl hgives nofun
    · have hlast : ∀ o' ∈ [o], gives o' = none := List.forall_mem_singleton.mpr hnone
      cases hrecords with
      | start hbefore => exact .start (List.forall_mem_append.mpr ⟨hbefore, hlast⟩)
      | @given before after o' _ heq hgives hafter =>
        have heq' : records ++ [o] = before ++ o' :: (after ++ [o]) := by
          rw [heq, List.append_assoc, List.cons_append]
        exact .given heq' hgives (List.forall_mem_append.mpr ⟨hafter, hlast⟩)

end

/-! ### Records in a row -/

namespace Settings

/-- The settings with records applied one after another. -/
def overrideAll (s : Settings) (records : List Overrides) : Settings :=
  records.foldl override s

variable (s : Settings)

theorem overrideAll_concat (records : List Overrides) (o : Overrides) :
    s.overrideAll (records ++ [o]) = (s.overrideAll records).override o := by
  rw [overrideAll, List.foldl_append, overrideAll]
  rfl

theorem overrideAll_append (before after : List Overrides) :
    s.overrideAll (before ++ after) = (s.overrideAll before).overrideAll after := by
  rw [overrideAll, List.foldl_append, overrideAll, overrideAll]

/-- What each record replaces if it gives something, and keeps otherwise, is in the end what was said
last. -/
theorem lastGiven_iff (get : Settings → α) (gives : Overrides → Option α)
    (hstep : ∀ s o, get (override s o) = (gives o).getD (get s)) (records : List Overrides) (v : α) :
    LastGiven gives (get s) records v ↔ v = get (s.overrideAll records) := by
  induction records using List.reverseRecOn with
  | nil => exact lastGiven_nil
  | append_singleton records o ih =>
    rw [lastGiven_concat, ih, overrideAll_concat, hstep]
    cases gives o with
    | none => simp
    | some w => simp [eq_comm]

end Settings

/-- What a record gives of the template file. A style alone gives that there is none. -/
def Overrides.templateFile? (o : Overrides) : Option (Option Storage.Path) :=
  if o.style.isSome ∨ o.templateFile.isSome then some o.templateFile else none

/-- What settings become by records in a row. -/
structure Overridden (s : Settings) (records : List Overrides) (final : Settings) : Prop where
  /-- The prefix is the last one given. -/
  tablePrefix : LastGiven (·.tablePrefix) s.tablePrefix records final.tablePrefix
  /-- The package is the last one given. -/
  package : LastGiven (·.package) s.package records final.package
  /-- The style is the last one given. -/
  style : LastGiven (·.style) s.style records final.style
  /-- The template file is that of the last record that gave a style or a template file. -/
  templateFile : LastGiven (·.templateFile?) s.templateFile records final.templateFile
  /-- The source root is the last one given. -/
  sourceRoot : LastGiven (·.sourceRoot) s.sourceRoot records final.sourceRoot
  /-- The output directory is the last one given. -/
  outputDir : LastGiven (·.outputDir) s.outputDir records final.outputDir
  /-- Classes are replaced if they were at the start or if any record gives so. -/
  overwrite : final.overwrite = true ↔ s.overwrite = true ∨ ∃ o ∈ records, o.overwrite = true

namespace Settings

theorem templateFile_override (s : Settings) (o : Overrides) :
    (s.override o).templateFile = o.templateFile?.getD s.templateFile := by
  rw [override, Overrides.templateFile?]
  cases o.templateFile with
  | some path => simp
  | none => cases o.style <;> simp

theorem overwrite_overrideAll (s : Settings) (records : List Overrides) :
    (s.overrideAll records).overwrite = true ↔
      s.overwrite = true ∨ ∃ o ∈ records, o.overwrite = true := by
  induction records using List.reverseRecOn with
  | nil => simp [overrideAll]
  | append_singleton records o ih =>
    simp only [overrideAll_concat, override, Bool.or_eq_true, ih, List.mem_append, or_and_right,
      exists_or, List.mem_singleton, exists_eq_left, or_assoc]

/-- The settings become what the records say, and nothing else fits the records. -/
theorem overrideAll_eq_iff {s final : Settings} {records : List Overrides} :
    s.overrideAll records = final ↔ Overridden s records final := by
  have htable := s.lastGiven_iff (·.tablePrefix) (·.tablePrefix) (fun _ _ => rfl) records
  have hpackage := s.lastGiven_iff (·.package) (·.package) (fun _ _ => rfl) records
  have hstyle := s.lastGiven_iff (·.style) (·.style) (fun _ _ => rfl) records
  have hfile := s.lastGiven_iff (·.templateFile) (·.templateFile?) templateFile_override records
  have hroot := s.lastGiven_iff (·.sourceRoot) (·.sourceRoot) (fun _ _ => rfl) records
  have hdir := s.lastGiven_iff (·.outputDir) (·.outputDir) (fun _ _ => rfl) records
  have hoverwrite := s.overwrite_overrideAll records
  constructor
  · rintro rfl
    exact ⟨(htable _).mpr rfl, (hpackage _).mpr rfl, (hstyle _).mpr rfl, (hfile _).mpr rfl,
      (hroot _).mpr rfl, (hdir _).mpr rfl, hoverwrite⟩
  · intro h
    have heq : final.overwrite = (s.overrideAll records).overwrite := by
      rw [Bool.eq_iff_iff, hoverwrite]
      exact h.overwrite
    exact (Settings.ext ((htable _).mp h.tablePrefix) ((hpackage _).mp h.package)
      ((hstyle _).mp h.style) ((hfile _).mp h.templateFile) ((hroot _).mp h.sourceRoot)
      ((hdir _).mp h.outputDir) heq).symm

end Settings

/-! ### One record for two -/

/-- The record that does what two records do one after the other. -/
def Overrides.andThen (o o' : Overrides) : Overrides where
  tablePrefix := o'.tablePrefix.or o.tablePrefix
  package := o'.package.or o.package
  style := o'.style.or o.style
  templateFile := o'.templateFile.or (if o'.style.isSome then none else o.templateFile)
  sourceRoot := o'.sourceRoot.or o.sourceRoot
  outputDir := o'.outputDir.or o.outputDir
  overwrite := o.overwrite || o'.overwrite

namespace Settings

/-- A style of the second record takes away the template file of the first one as well as that of
the settings. -/
theorem override_andThen (s : Settings) (o o' : Overrides) :
    s.override (o.andThen o') = (s.override o).override o' := by
  have hfile : (s.override (o.andThen o')).templateFile =
      ((s.override o).override o').templateFile := by
    obtain ⟨-, -, style, templateFile, -, -, -⟩ := o'
    simp only [override, Overrides.andThen]
    cases templateFile with
    | some path => rfl
    | none => cases style <;> rfl
  refine Settings.ext ?_ ?_ ?_ hfile ?_ ?_ (Bool.or_assoc ..).symm
  all_goals exact Option.getD_or

/-- What a record gives, it gives again. -/
theorem override_self (s : Settings) (o : Overrides) :
    (s.override o).override o = s.override o := by
  have hself : o.andThen o = o := by
    obtain ⟨tablePrefix, package, style, templateFile, sourceRoot, outputDir, overwrite⟩ := o
    simp only [Overrides.andThen, Option.or_self, Bool.or_self, Overrides.mk.injEq, true_and,
      and_true]
    cases templateFile with
    | some path => rfl
    | none => simp
  rw [← override_andThen, hself]

/-- Records in a row leave each setting as the last record that gave it has it, where a style
without a template file gives none and overwriting stays once it is asked for. Anywhere in the row a
record can be repeated without effect, and any two records next to each other can be replaced by
one, whatever the settings are. -/
theorem overrideAll_spec :
    (∀ (s final : Settings) (records : List Overrides),
        s.overrideAll records = final ↔ Overridden s records final) ∧
      (∀ (s : Settings) (before after : List Overrides) (o : Overrides),
        s.overrideAll (before ++ o :: o :: after) = s.overrideAll (before ++ o :: after)) ∧
      ∀ o o' : Overrides, ∃ one : Overrides, ∀ (s : Settings) (before after : List Overrides),
        s.overrideAll (before ++ o :: o' :: after) = s.overrideAll (before ++ one :: after) := by
  refine ⟨fun _ _ _ => overrideAll_eq_iff, fun s before after o => ?_, fun o o' =>
    ⟨o.andThen o', fun s before after => ?_⟩⟩
  · rw [overrideAll_append, overrideAll_append, overrideAll, List.foldl_cons, List.foldl_cons,
      override_self]
    rfl
  · rw [overrideAll_append, overrideAll_append, overrideAll, List.foldl_cons, List.foldl_cons,
      ← override_andThen]
    rfl

/-- A template file that one record gives is taken away by the style of the next one. -/
example : overrideAll {} [{ templateFile := some ⟨"a.j2"⟩ }, { style := some .jpa }] =
    { style := .jpa } := rfl

end Settings

end EntityForge.Generation
