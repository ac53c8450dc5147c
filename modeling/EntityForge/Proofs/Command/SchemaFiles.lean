import EntityForge.Proofs.Command.DryRuns
import EntityForge.Proofs.Model.Schema
import EntityForge.Proofs.Storage.Files

/-!
# Schema files

A generation can write the schema of its entities to a file. That file then has, byte for byte, what
is shown of the same document as JSON from the storage before the generation, and it reads as the
entities of the document, one for each class that is told of. The two requests come to the text on
ways of their own, and of all that is given to them only the document, the settings file and the
prefix have to agree.

A journal can be kept beside, as long as it does not go to the file of the schema.
-/

namespace EntityForge.Generation

open Model (Entity)
open Storage (Path Tree)

/-! ### Directories stay -/

theorem keeps_writeAll (storage : Tree) (planned : List Planned) :
    storage.Keeps (writeAll storage planned).storage := by
  induction planned generalizing storage with
  | nil => exact .refl storage
  | cons p rest ih =>
    rw [writeAll]
    cases hwrite : storage.writeText p.path p.source with
    | error cause => exact .refl storage
    | ok storage' => exact (Tree.keeps_of_writeText hwrite).trans (ih storage')

theorem keeps_writePlanned (storage : Tree) (o : Options) (planned : List Planned) :
    storage.Keeps (writePlanned storage o planned).storage := by
  have hmade := (Tree.madeOn_makeDirectories storage o.packageDir).keeps
  rw [writePlanned]
  split
  · split
    · next storage' hmake =>
      rw [hmake] at hmade
      exact hmade.trans (keeps_writeAll storage' planned)
    · next storage' cause hmake =>
      rw [hmake] at hmade
      exact hmade
  · exact keeps_writeAll storage planned

/-- Writing classes keeps the directories, whatever it comes to. -/
theorem keeps_writeSources (storage : Tree) (o : Options) (entities : List Entity) :
    storage.Keeps (writeSources storage o entities).1 := by
  rw [writeSources, writing]
  split
  · exact .refl storage
  · exact keeps_writePlanned storage o _

theorem keeps_makeParent (storage : Tree) (path : Path) :
    storage.Keeps (makeParent storage path).1 := by
  rw [makeParent]
  split
  · exact .refl storage
  · exact (Tree.madeOn_makeDirectories storage _).keeps

/-- A schema that is written stands in its file with a line end behind it, and directories are
kept. -/
theorem writeSchema_eq_ok {storage after : Tree} {path : Path} {entities : List Entity}
    (h : writeSchema storage path entities = (after, .ok ())) :
    storage.Keeps after ∧
      after.readBytes path = .ok (Model.schemaText entities ++ "\n").toUTF8 := by
  have hparent := keeps_makeParent storage path
  rw [writeSchema] at h
  split at h
  · cases h
  · next storage' hmake =>
    rw [hmake] at hparent
    split at h
    · next storage'' hwrite =>
      cases h
      have hwrite := Outcome.mapError_eq_ok.mp hwrite
      exact ⟨hparent.trans (Tree.keeps_of_writeText hwrite), Tree.readBytes_of_writeText hwrite⟩
    · cases h

end EntityForge.Generation

namespace EntityForge.Command

open CommandLine (Keeping)
open EntityForge.Outcome (bind_eq_ok map_eq_ok mapError_eq_ok ok_bind exists_left_of_forall₂)
open Generation (Settings)
open Model (Entity)
open Storage (Path Tree)

/-! ### Dates -/

/-- The dates of entities that are extracted are such as can be written and read. -/
theorem proper_of_loadFile {storage : Tree} {naming : Model.Naming} {path : Path}
    {entities : List Entity} (h : Model.loadFile storage naming path = .ok entities) :
    ∀ e ∈ entities, ∀ t ∈ e.createDate, t.Proper := by
  intro e he t ht
  obtain ⟨text, -, hload⟩ := bind_eq_ok.mp h
  obtain ⟨root, -, hentities⟩ := Model.loadText_eq_ok.mp hload
  obtain ⟨tables, -, hfits⟩ := Model.entitiesOfDocument_eq_ok.mp hentities
  obtain ⟨table, -, hentity⟩ := exists_left_of_forall₂ hfits he
  obtain ⟨code, columns, -, -, -, -, hdate, -⟩ := hentity.code
  rw [ht, Model.readOptional] at hdate
  split at hdate
  · cases hdate
  · obtain ⟨t', hread, heq⟩ := map_eq_ok.mp hdate
    obtain rfl := Option.some.inj heq
    exact (Model.Producible.extracted (Model.require_eq_ok.mp hread)).proper

/-! ### The same entities -/

/-- Two sources have the same document, the same settings file and the same prefix given. The other
overrides do not matter. -/
structure Source.Agrees (a b : Source) : Prop where
  /-- The document is the same. -/
  document : b.document = a.document
  /-- The settings file is the same. -/
  settingsFile : b.settingsFile = a.settingsFile
  /-- The prefix that is given is the same. -/
  tablePrefix : b.overrides.tablePrefix = a.overrides.tablePrefix

/-- Sources that agree have settings of one prefix and the same entities. -/
theorem Source.Agrees.entities {a b : Source} (h : a.Agrees b) {storage : Tree}
    {settings : Settings} {entities : List Entity} (hsettings : a.settings storage = .ok settings)
    (hentities : a.entities storage settings = .ok entities) :
    ∃ settings', b.settings storage = .ok settings' ∧
      b.entities storage settings' = .ok entities := by
  obtain ⟨loaded, hload, heq⟩ := bind_eq_ok.mp hsettings
  obtain rfl := (Except.ok.inj heq).symm
  refine ⟨loaded.override b.overrides, ?_, ?_⟩
  · rw [Source.settings, h.settingsFile, hload]
    rfl
  · have hnaming : (loaded.override b.overrides).naming = (loaded.override a.overrides).naming := by
      rw [Settings.naming, Settings.naming, Settings.override, Settings.override, h.tablePrefix]
    rw [Source.entities, hnaming, h.document]
    exact mapError_eq_ok.mpr (mapError_eq_ok.mp hentities)

namespace Generate

variable {storage after : Tree} {g : Generate} {settings : Settings} {entities : List Entity}
  {told : Summary} {path : Path}

/-! ### Generations -/

/-- A generation that succeeds with a schema asked for has written it. -/
theorem schema_of_perform (hschema : g.schemaFile = some path)
    (h : g.perform storage settings entities = (after, .ok told)) :
    storage.Keeps after ∧
      after.readBytes path = .ok (Model.schemaText entities ++ "\n").toUTF8 := by
  obtain ⟨written, files, hwrite, hfile, -⟩ := perform_eq_ok.mp h
  have hkeeps := Generation.keeps_writeSources storage settings.options entities
  rw [hwrite] at hkeeps
  rw [writeSchemaFile, hschema] at hfile
  obtain ⟨hkeeps', hread⟩ := Generation.writeSchema_eq_ok hfile
  exact ⟨hkeeps.trans hkeeps', hread⟩

theorem classes_of_perform (h : g.perform storage settings entities = (after, .ok told)) :
    told.classes = classesOf settings.options entities := by
  obtain ⟨written, files, hwrite, -, rfl⟩ := perform_eq_ok.mp h
  obtain ⟨-, -, rfl⟩ := Generation.files_of_writeSources hwrite
  exact classes_summary g settings entities g.schemaFile

end Generate

/-- The entities of a source that agrees with that of a generation are shown as JSON. -/
theorem Inspect.run_eq_ok {storage : Tree} {i : Inspect} {settings : Settings}
    {entities : List Entity} (hjson : i.asJson = true)
    (hsettings : i.source.settings storage = .ok settings)
    (hentities : i.source.entities storage settings = .ok entities) :
    i.run storage = .ok (Model.schemaText entities ++ "\n") := by
  rw [run, hsettings, ok_bind, hentities, ok_bind, if_pos hjson]
  rfl

/-! ### Journals -/

theorem keeps_append {storage storage' : Tree} {path : Path} {text : String}
    (h : append storage path text = .ok storage') : storage.Keeps storage' := by
  obtain ⟨place, hplace, h⟩ := bind_eq_ok.mp h
  cases h
  exact Tree.keeps_set _ (Tree.writablePlace_eq_ok.mp hplace).2

section Sessions

variable {s : Surroundings} {storage opened' : Tree} {keeping : Keeping} {r : Request}

/-- The lines of the journal keep the directories. -/
theorem keeps_invoke (hopened : opened keeping storage = .ok opened') :
    (r.run opened').1.Keeps (invoke s storage ⟨keeping, r⟩).storage := by
  rw [opened] at hopened
  rw [invoke]
  cases hfile : keeping.file with
  | none =>
    rw [hfile] at hopened
    cases hopened
    simp only [storage_carryOut]
    exact .refl _
  | some path =>
    rw [hfile] at hopened
    simp only [hopened, storage_carryOut]
    cases hlines : append (r.run opened').1 path (journalText s keeping opened' r) with
    | error cause => exact .refl _
    | ok storage' => exact keeps_append hlines

/-- What a request leaves in a file is there at the end of the session, unless the journal goes to
that file. -/
theorem readBytes_invoke (hopened : opened keeping storage = .ok opened') {path : Path}
    {content : ByteArray} (hread : (r.run opened').1.readBytes path = .ok content)
    (hjournal : ∀ log, keeping.file = some log →
      (r.run opened').1.placeOf log ≠ (r.run opened').1.placeOf path) :
    (invoke s storage ⟨keeping, r⟩).storage.readBytes path = .ok content := by
  have honly : OnlyJournal keeping (r.run opened').1 (invoke s storage ⟨keeping, r⟩).storage := by
    rcases invoke_cases s storage keeping r with ⟨-, -, hnone⟩ | ⟨o, journal, ho, -, -, honly⟩
    · exact absurd hopened (hnone opened')
    · obtain rfl : o = opened' := Except.ok.inj (ho.symm.trans hopened)
      exact honly
  refine (keeps_invoke hopened).readBytes hread (honly.entry _ fun log hlog heq => ?_)
  exact hjournal log hlog heq.symm

end Sessions

/-! ### Both requests -/

/-- A session that generates the classes of a document with their schema, and ends well, leaves in the
file of the schema what a session that shows the same document as JSON shows from the same storage.
This is the schema of the entities with a line end, it reads as the entities, and there are as many
of them as classes that are told of. -/
theorem schemaFile_of_invoke {s s' : Surroundings} {storage : Tree} {keeping keeping' : Keeping}
    {g : Generate} {i : Inspect} {path : Path} (hdry : g.dryRun = false)
    (hschema : g.schemaFile = some path) (hjson : i.asJson = true)
    (hsource : g.source.Agrees i.source) (hkeeping : keeping'.file = keeping.file)
    (hjournal : ∀ log, keeping.file = some log → storage.placeOf log ≠ storage.placeOf path)
    (hexit : (invoke s storage ⟨keeping, .generate g⟩).exitCode = 0) :
    (invoke s' storage ⟨keeping', .inspect i⟩).exitCode = 0 ∧
      (invoke s storage ⟨keeping, .generate g⟩).storage.readBytes path =
        .ok (invoke s' storage ⟨keeping', .inspect i⟩).output.toUTF8 ∧
      ∃ opened' settings entities, ∃ told : Summary, opened keeping storage = .ok opened' ∧
        g.source.settings opened' = .ok settings ∧
        g.source.entities opened' settings = .ok entities ∧
        (invoke s' storage ⟨keeping', .inspect i⟩).output = Model.schemaText entities ++ "\n" ∧
        Model.readSchema (invoke s' storage ⟨keeping', .inspect i⟩).output = .ok entities ∧
        (g.run opened').2 = .ok told ∧
        (invoke s storage ⟨keeping, .generate g⟩).output = told.text ∧
        told.classes = classesOf settings.options entities ∧
        told.classes.length = entities.length := by
  obtain ⟨opened', after, text, hopened, hrun⟩ := exists_run_of_invoke hexit
  obtain ⟨told, htold, rfl⟩ := run_generate_eq_ok.mp hrun
  obtain ⟨settings, entities, hsettings, hentities, hperform⟩ :=
    (Generate.run_eq_ok_iff_perform hdry).mp htold
  obtain ⟨hkeeps, hread⟩ := Generate.schema_of_perform hschema hperform
  have hclasses := Generate.classes_of_perform hperform
  -- the other session carries out its request from the same storage
  have hopened' : opened keeping' storage = .ok opened' := by
    rw [opened, hkeeping]
    exact hopened
  obtain ⟨settings', hsettings', hentities'⟩ := hsource.entities hsettings hentities
  have hshown : (Request.inspect i).run opened' =
      (opened', .ok (Model.schemaText entities ++ "\n")) :=
    congrArg (opened', ·) (Inspect.run_eq_ok hjson hsettings' hentities')
  obtain ⟨hexit', houtput⟩ := invoke_of_run (s := s') hopened' hshown
  -- the places of the journal and of the schema are those from the start
  have hplace : ∀ p, after.placeOf p = storage.placeOf p :=
    Tree.placeOf_congr (hkeeps.workingPlace.trans (onlyJournal_opened hopened).workingPlace)
  have hafter : ((Request.generate g).run opened').1 = after := by rw [hrun]
  have hfile : (invoke s storage ⟨keeping, .generate g⟩).storage.readBytes path =
      .ok (Model.schemaText entities ++ "\n").toUTF8 := by
    refine readBytes_invoke hopened (hafter ▸ hread) fun log hlog => ?_
    rw [hafter, hplace, hplace]
    exact hjournal log hlog
  have hproper := proper_of_loadFile (mapError_eq_ok.mp hentities)
  refine ⟨hexit', houtput ▸ hfile, opened', settings, entities, told, hopened, hsettings, hentities,
    houtput, houtput ▸ Model.readSchema_line hproper, by rw [htold],
    (invoke_of_run hopened hrun).2, hclasses, ?_⟩
  rw [hclasses, classesOf, List.length_map]

/-- A request for the class of a table and its schema. -/
def schemaRequest : Generate := { orderRequest with schemaFile := some ⟨"schema.json"⟩ }

/-- A request for the entity of the table as JSON, with a package that does not matter. -/
def shownRequest : Inspect where
  source := { document := ⟨"a.pdm"⟩, overrides := { package := some "shop" } }
  asJson := true

theorem run_schemaRequest : ∃ after told, schemaRequest.run orderStorage = (after, .ok told) := by
  obtain ⟨files, hwrite⟩ := writeSources_orderStorage
  have hschema : schemaRequest.writeSchemaFile orderWriting.storage
      [Generation.codedEntity "t_order"] = (_, .ok ()) := Prod.ext rfl (by decide +kernel)
  have hperform := (Generate.perform_eq_ok (g := schemaRequest)).mpr ⟨_, files, hwrite, hschema, rfl⟩
  exact ⟨_, _, (Generate.run_eq_ok_iff_perform rfl).mpr
    ⟨{}, _, rfl, entities_orderRequest, hperform⟩⟩

/-- The schema of the class is what is shown of the entity. -/
theorem schemaFile_schemaRequest :
    (invoke ⟨none, ⟨"", ""⟩⟩ orderStorage ⟨{}, .generate schemaRequest⟩).storage.readBytes
        ⟨"schema.json"⟩ =
      .ok (invoke ⟨none, ⟨"", ""⟩⟩ orderStorage ⟨{}, .inspect shownRequest⟩).output.toUTF8 := by
  obtain ⟨after, told, hrun⟩ := run_schemaRequest
  have hopened : opened {} orderStorage = .ok orderStorage := rfl
  have hexit : (invoke ⟨none, ⟨"", ""⟩⟩ orderStorage ⟨{}, .generate schemaRequest⟩).exitCode = 0 :=
    (invoke_of_run hopened (run_generate_eq_ok.mpr ⟨told, hrun, rfl⟩)).1
  have hjournal : ∀ log, ({} : Keeping).file = some log →
      orderStorage.placeOf log ≠ orderStorage.placeOf ⟨"schema.json"⟩ := fun _ hlog => nomatch hlog
  exact (schemaFile_of_invoke (i := shownRequest) rfl rfl rfl ⟨rfl, rfl, rfl⟩ rfl hjournal hexit).2.1

end EntityForge.Command
