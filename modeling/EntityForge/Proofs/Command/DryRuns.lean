import EntityForge.Command.Session
import EntityForge.Proofs.Generation.Containment

/-!
# Dry runs

A generation that is only rehearsed leaves the storage as it was, and where the generation itself
would succeed, the rehearsal succeeds and tells the same of the package, the template and the
classes. The converse is not true: classes that clash, files that may not be replaced and templates
that fail to render are found by the generation alone.

The file of the journal is no part of what a request does. It is opened before anything else, and
the lines are added behind.
-/

namespace EntityForge.Command

open CommandLine (Keeping)
open EntityForge.Outcome (bind_eq_ok map_eq_ok mapError_eq_ok ok_bind)
open Generation (Failure Options Settings)
open Model (Entity)
open Storage (Path Place Tree)

/-! ### Summaries -/

/-- Two summaries tell the same of all but the schema and of whether anything was written. -/
structure TellAlike (told shown : Summary) : Prop where
  /-- The document is the same. -/
  document : shown.document = told.document
  /-- The package is the same. -/
  package : shown.package = told.package
  /-- The template is the same. -/
  templateLabel : shown.templateLabel = told.templateLabel
  /-- The classes are the same, in order. -/
  classes : shown.classes = told.classes

/-- What is told of the classes of some entities, one of each, with the files that they have under
some options. -/
def classesOf (o : Options) (entities : List Entity) : List ClassSummary :=
  entities.map fun e => ClassSummary.of e (o.classPath e.name)

namespace Generate

variable {storage after : Tree} {g : Generate} {settings : Settings} {entities : List Entity}
  {told : Summary}

theorem classes_summary (g : Generate) (settings : Settings) (entities : List Entity)
    (schemaFile : Option Path) :
    (g.summary settings entities (entities.map fun e => settings.options.classPath e.name)
      schemaFile).classes = classesOf settings.options entities := by
  rw [summary, List.zipWith_map_right, List.zipWith_self, classesOf]

/-! ### Generations -/

/-- A generation that is not rehearsed succeeds where the classes and the schema can be written, and
tells of the files of the classes. -/
theorem perform_eq_ok : g.perform storage settings entities = (after, .ok told) ↔
    ∃ written files, Generation.writeSources storage settings.options entities =
        (written, .ok files) ∧ g.writeSchemaFile written entities = (after, .ok ()) ∧
      g.summary settings entities files g.schemaFile = told := by
  rw [perform]
  constructor
  · intro h
    split at h
    · cases h
    · next written files hwrite =>
      split at h
      · cases h
      · next hschema =>
        cases h
        exact ⟨written, files, hwrite, hschema, rfl⟩
  · rintro ⟨written, files, hwrite, hschema, rfl⟩
    simp only [hwrite, hschema]

/-- A generation succeeds where its settings and its entities can be loaded and what is then done
succeeds. -/
theorem run_eq_ok : g.run storage = (after, .ok told) ↔
    ∃ settings entities, g.source.settings storage = .ok settings ∧
      g.source.entities storage settings = .ok entities ∧
      (if g.dryRun then (storage, g.rehearse storage settings entities)
        else g.perform storage settings entities) = (after, .ok told) := by
  rw [run]
  constructor
  · intro h
    split at h
    · cases h
    · next settings hsettings =>
      split at h
      · cases h
      · next entities hentities => exact ⟨settings, entities, hsettings, hentities, h⟩
  · rintro ⟨settings, entities, hsettings, hentities, h⟩
    simp only [hsettings, hentities, h]

theorem run_eq_ok_iff_perform (hdry : g.dryRun = false) : g.run storage = (after, .ok told) ↔
    ∃ settings entities, g.source.settings storage = .ok settings ∧
      g.source.entities storage settings = .ok entities ∧
      g.perform storage settings entities = (after, .ok told) := by
  simp only [run_eq_ok, hdry, Bool.false_eq_true, if_false]

/-- A rehearsal succeeds where the package is valid and the template can be loaded. -/
theorem rehearse_eq_ok (hvalid : settings.options.validate = .ok ())
    {origin : Generation.Origin} (horigin : settings.options.origin storage = .ok origin) :
    g.rehearse storage settings entities = .ok (g.summary settings entities
      (entities.map fun e => settings.options.classPath e.name) none) := by
  rw [rehearse, hvalid]
  cases hfile : settings.options.templateFile with
  | none => rfl
  | some path =>
    rw [Options.origin, hfile] at horigin
    obtain ⟨file, hload, -⟩ := map_eq_ok.mp horigin
    rw [ok_bind]
    simp only [hload]
    rfl

/-- The same generation, but rehearsed. -/
def rehearsed (g : Generate) : Generate := { g with dryRun := true }

/-- A rehearsal changes nothing. -/
theorem run_rehearsed (storage : Tree) (g : Generate) : (g.rehearsed.run storage).1 = storage := by
  unfold run
  split
  · rfl
  · split
    · rfl
    · rfl

/-- Where a generation succeeds, so does its rehearsal, and the two tell alike. -/
theorem run_rehearsed_of_ok (hdry : g.dryRun = false) (h : g.run storage = (after, .ok told)) :
    ∃ settings entities shown, g.source.settings storage = .ok settings ∧
      g.source.entities storage settings = .ok entities ∧
      g.rehearsed.run storage = (storage, .ok shown) ∧ TellAlike told shown ∧
      told.classes = classesOf settings.options entities := by
  obtain ⟨settings, entities, hsettings, hentities, h⟩ := (run_eq_ok_iff_perform hdry).mp h
  obtain ⟨written, files, hwrite, -, rfl⟩ := perform_eq_ok.mp h
  obtain ⟨hvalid, ⟨origin, horigin⟩, rfl⟩ := Generation.files_of_writeSources hwrite
  have hrehearsed : g.rehearsed.run storage = (storage, .ok (g.rehearsed.summary settings entities
      (entities.map fun e => settings.options.classPath e.name) none)) :=
    run_eq_ok.mpr ⟨settings, entities, hsettings, hentities,
      (if_pos rfl).trans (Prod.ext rfl (rehearse_eq_ok hvalid horigin))⟩
  have hclasses := classes_summary g settings entities g.schemaFile
  refine ⟨settings, entities, _, hsettings, hentities, hrehearsed, ⟨rfl, rfl, rfl, ?_⟩, hclasses⟩
  rw [classes_summary, hclasses]

end Generate

/-! ### Sessions -/

/-- The storage once the file of the journal is open. -/
def opened (keeping : Keeping) (storage : Tree) : Except Storage.Cause Tree :=
  match keeping.file with
  | none => .ok storage
  | some path => append storage path ""

/-- Nothing but the file of the journal is different. -/
structure OnlyJournal (keeping : Keeping) (before after : Tree) : Prop where
  /-- Without such a file nothing is different. -/
  same : keeping.file = none → after = before
  /-- Relative paths start from the same place. -/
  workingPlace : after.workingPlace = before.workingPlace
  /-- What stands elsewhere is as it was. -/
  entry : ∀ place, (∀ path, keeping.file = some path → place ≠ before.placeOf path) →
    after.entry? place = before.entry? place

theorem OnlyJournal.refl (keeping : Keeping) (storage : Tree) :
    OnlyJournal keeping storage storage :=
  ⟨fun _ => rfl, rfl, fun _ _ => rfl⟩

theorem OnlyJournal.trans {keeping : Keeping} {a b c : Tree} (hab : OnlyJournal keeping a b)
    (hbc : OnlyJournal keeping b c) : OnlyJournal keeping a c := by
  refine ⟨fun hnone => (hbc.same hnone).trans (hab.same hnone),
    hbc.workingPlace.trans hab.workingPlace, fun place hplace => ?_⟩
  rw [hbc.entry place fun path hpath => ?_, hab.entry place hplace]
  rw [Tree.placeOf_congr hab.workingPlace]
  exact hplace path hpath

theorem onlyJournal_append {keeping : Keeping} {path : Path} (hfile : keeping.file = some path)
    {storage storage' : Tree} {text : String} (h : append storage path text = .ok storage') :
    OnlyJournal keeping storage storage' := by
  obtain ⟨place, hplace, h⟩ := bind_eq_ok.mp h
  cases h
  obtain ⟨hlocate, -⟩ := Tree.writablePlace_eq_ok.mp hplace
  refine ⟨fun hnone => ?_, rfl, fun q hq => Tree.entry?_set_of_ne storage _ ?_⟩
  · rw [hfile] at hnone
    cases hnone
  · obtain ⟨heq, -⟩ := Tree.locate_eq_ok hlocate
    have hplace' : place = storage.placeOf path := heq
    rw [hplace']
    exact hq path hfile

theorem onlyJournal_opened {keeping : Keeping} {storage storage' : Tree}
    (h : opened keeping storage = .ok storage') : OnlyJournal keeping storage storage' := by
  rw [opened] at h
  cases hfile : keeping.file with
  | none =>
    rw [hfile] at h
    cases h
    exact OnlyJournal.refl keeping storage
  | some path =>
    rw [hfile] at h
    exact onlyJournal_append hfile h

section Sessions

variable {s : Surroundings} {storage opened' after : Tree} {keeping : Keeping} {r : Request}
  {text journal : String}

theorem storage_carryOut (storage : Tree) (r : Request) (journal : String) :
    (carryOut storage r journal).storage = (r.run storage).1 := by
  rw [carryOut]
  split
  · next h => rw [h]
  · next h => rw [h]

theorem carryOut_of_run (h : r.run storage = (after, .ok text)) :
    (carryOut storage r journal).exitCode = 0 ∧ (carryOut storage r journal).output = text := by
  rw [carryOut, h]
  exact ⟨rfl, rfl⟩

theorem exists_run_of_carryOut (h : (carryOut storage r journal).exitCode = 0) :
    ∃ after text, r.run storage = (after, .ok text) := by
  rw [carryOut] at h
  split at h
  · next after text hrun => exact ⟨after, text, hrun⟩
  · cases h

/-- A session whose journal cannot be opened does nothing. Any other one carries out the request
with the journal open, and then adds to the journal. -/
theorem invoke_cases (s : Surroundings) (storage : Tree) (keeping : Keeping) (r : Request) :
    (invoke s storage ⟨keeping, r⟩).exitCode = 1 ∧
        (invoke s storage ⟨keeping, r⟩).storage = storage ∧
        (∀ opened', opened keeping storage ≠ .ok opened') ∨
      ∃ opened' journal, opened keeping storage = .ok opened' ∧
        (invoke s storage ⟨keeping, r⟩).exitCode = (carryOut opened' r journal).exitCode ∧
        (invoke s storage ⟨keeping, r⟩).output = (carryOut opened' r journal).output ∧
        OnlyJournal keeping (r.run opened').1 (invoke s storage ⟨keeping, r⟩).storage := by
  rw [invoke, opened]
  cases hfile : keeping.file with
  | none =>
    refine .inr ⟨storage, journalText s keeping storage r, rfl, rfl, rfl, ?_⟩
    simp only [storage_carryOut]
    exact OnlyJournal.refl keeping _
  | some path =>
    simp only
    cases happend : append storage path "" with
    | error cause => exact .inl ⟨rfl, rfl, fun _ h => nomatch h⟩
    | ok opened' =>
      refine .inr ⟨opened', "", rfl, rfl, rfl, ?_⟩
      simp only [storage_carryOut]
      cases hlines : append (r.run opened').1 path (journalText s keeping opened' r) with
      | error cause => exact OnlyJournal.refl keeping _
      | ok storage' => exact onlyJournal_append hfile hlines

/-- A request that changes nothing leaves nothing but the journal behind. -/
theorem onlyJournal_invoke (hr : ∀ storage, (r.run storage).1 = storage) (s : Surroundings)
    (storage : Tree) (keeping : Keeping) :
    OnlyJournal keeping storage (invoke s storage ⟨keeping, r⟩).storage := by
  rcases invoke_cases s storage keeping r with ⟨-, hstorage, -⟩ | ⟨opened', -, hopened, -, -, hlines⟩
  · rw [hstorage]
    exact OnlyJournal.refl keeping storage
  · rw [hr] at hlines
    exact (onlyJournal_opened hopened).trans hlines

/-- A session in which the request succeeds shows what the request comes to. -/
theorem invoke_of_run (hopened : opened keeping storage = .ok opened')
    (hrun : r.run opened' = (after, .ok text)) :
    (invoke s storage ⟨keeping, r⟩).exitCode = 0 ∧
      (invoke s storage ⟨keeping, r⟩).output = text := by
  rcases invoke_cases s storage keeping r with ⟨-, -, hnone⟩ | ⟨o, journal, ho, hexit, houtput, -⟩
  · exact absurd hopened (hnone opened')
  · obtain rfl : o = opened' := Except.ok.inj (ho.symm.trans hopened)
    rw [hexit, houtput]
    exact carryOut_of_run hrun

/-- A session that ends well has carried out its request. -/
theorem exists_run_of_invoke (h : (invoke s storage ⟨keeping, r⟩).exitCode = 0) :
    ∃ opened' after text, opened keeping storage = .ok opened' ∧
      r.run opened' = (after, .ok text) := by
  rcases invoke_cases s storage keeping r with ⟨hexit, -⟩ | ⟨opened', journal, hopened, hexit, -⟩
  · rw [hexit] at h
    cases h
  · rw [hexit] at h
    obtain ⟨after, text, hrun⟩ := exists_run_of_carryOut h
    exact ⟨opened', after, text, hopened, hrun⟩

end Sessions

theorem run_generate_eq_ok {storage after : Tree} {g : Generate} {text : String} :
    (Request.generate g).run storage = (after, .ok text) ↔
      ∃ told, g.run storage = (after, .ok told) ∧ told.text = text := by
  rw [Request.run]
  simp only [Prod.mk.injEq, map_eq_ok]
  constructor
  · rintro ⟨hafter, told, htold, htext⟩
    exact ⟨told, Prod.ext hafter htold, htext⟩
  · rintro ⟨told, hrun, htext⟩
    rw [hrun]
    exact ⟨rfl, told, rfl, htext⟩

/-- A session that rehearses a generation leaves nothing but its journal behind. Where the same
session without the rehearsal ends well, the rehearsal does so too and shows the same package, the
same template and the same classes, one for each entity in order. -/
theorem invoke_rehearsed (s : Surroundings) (storage : Tree) (keeping : Keeping) {g : Generate}
    (hdry : g.dryRun = false) :
    OnlyJournal keeping storage (invoke s storage ⟨keeping, .generate g.rehearsed⟩).storage ∧
      ((invoke s storage ⟨keeping, .generate g⟩).exitCode = 0 →
        (invoke s storage ⟨keeping, .generate g.rehearsed⟩).exitCode = 0 ∧
        ∃ opened' after settings entities told shown, opened keeping storage = .ok opened' ∧
          g.source.settings opened' = .ok settings ∧
          g.source.entities opened' settings = .ok entities ∧
          g.run opened' = (after, .ok told) ∧ g.rehearsed.run opened' = (opened', .ok shown) ∧
          (invoke s storage ⟨keeping, .generate g⟩).output = told.text ∧
          (invoke s storage ⟨keeping, .generate g.rehearsed⟩).output = shown.text ∧
          TellAlike told shown ∧ told.classes = classesOf settings.options entities) := by
  have hquiet : ∀ storage, ((Request.generate g.rehearsed).run storage).1 = storage :=
    fun storage => Generate.run_rehearsed storage g
  refine ⟨onlyJournal_invoke hquiet s storage keeping, fun hexit => ?_⟩
  obtain ⟨opened', after, text, hopened, hrun⟩ := exists_run_of_invoke hexit
  obtain ⟨told, htold, rfl⟩ := run_generate_eq_ok.mp hrun
  obtain ⟨settings, entities, shown, hsettings, hentities, hshown, halike, hclasses⟩ :=
    Generate.run_rehearsed_of_ok hdry htold
  have hrehearsed := run_generate_eq_ok.mpr ⟨shown, hshown, rfl⟩
  obtain ⟨hexit', houtput'⟩ := invoke_of_run (s := s) hopened hrehearsed
  exact ⟨hexit', opened', after, settings, entities, told, shown, hopened, hsettings, hentities,
    htold, hshown, (invoke_of_run hopened hrun).2, houtput', halike, hclasses⟩

/-- A storage with a document of one table. -/
def orderStorage : Tree :=
  { entries := [(["a.pdm"], .file (Generation.codedDocument "t_order").toUTF8)] }

/-- A request for the class of the table. -/
def orderRequest : Generate := { source := { document := ⟨"a.pdm"⟩ } }

theorem entities_orderRequest : orderRequest.source.entities orderStorage {} =
    .ok [Generation.codedEntity "t_order"] := by
  have hread : orderStorage.readText ⟨"a.pdm"⟩ = .ok (Generation.codedDocument "t_order") := by
    decide +kernel
  have hload : Model.loadFile orderStorage {} ⟨"a.pdm"⟩ =
      .ok [Generation.codedEntity "t_order"] := by
    rw [Model.loadFile, mapError_eq_ok.mpr hread, ok_bind]
    exact Generation.loadText_codedDocument Generation.parseDocument_order
  exact mapError_eq_ok.mpr hload

/-- What writing the class of the table comes to. -/
def orderWriting : Generation.Writing :=
  Generation.writing orderStorage (Settings.options {}) [Generation.codedEntity "t_order"]

theorem writeSources_orderStorage : ∃ files, Generation.writeSources orderStorage
    (Settings.options {}) [Generation.codedEntity "t_order"] = (orderWriting.storage, .ok files) :=
  ⟨_, Generation.writeSources_eq_ok.mpr ⟨rfl, by decide +kernel, rfl⟩⟩

theorem run_orderRequest : ∃ after told, orderRequest.run orderStorage = (after, .ok told) := by
  obtain ⟨files, hwrite⟩ := writeSources_orderStorage
  have hperform := (Generate.perform_eq_ok (g := orderRequest)).mpr ⟨_, files, hwrite, rfl, rfl⟩
  exact ⟨_, _, (Generate.run_eq_ok_iff_perform rfl).mpr
    ⟨{}, _, rfl, entities_orderRequest, hperform⟩⟩

/-- The rehearsal tells of the class that is written and writes nothing. -/
theorem invoke_orderRequest : ∃ told shown,
    (invoke ⟨none, ⟨"", ""⟩⟩ orderStorage ⟨{}, .generate orderRequest⟩).output = told.text ∧
      (invoke ⟨none, ⟨"", ""⟩⟩ orderStorage ⟨{}, .generate orderRequest.rehearsed⟩).output =
        shown.text ∧
      TellAlike told shown ∧
      (invoke ⟨none, ⟨"", ""⟩⟩ orderStorage ⟨{}, .generate orderRequest.rehearsed⟩).storage =
        orderStorage := by
  obtain ⟨after, told, hrun⟩ := run_orderRequest
  obtain ⟨hjournal, hagree⟩ := @invoke_rehearsed ⟨none, ⟨"", ""⟩⟩ orderStorage {} orderRequest rfl
  have hopened : opened {} orderStorage = .ok orderStorage := rfl
  have hexit : (invoke ⟨none, ⟨"", ""⟩⟩ orderStorage ⟨{}, .generate orderRequest⟩).exitCode = 0 :=
    (invoke_of_run hopened (run_generate_eq_ok.mpr ⟨told, hrun, rfl⟩)).1
  obtain ⟨-, -, -, -, -, told', shown, -, -, -, -, -, htold, hshown, halike, -⟩ := hagree hexit
  exact ⟨told', shown, htold, hshown, halike, hjournal.same rfl⟩

end EntityForge.Command
