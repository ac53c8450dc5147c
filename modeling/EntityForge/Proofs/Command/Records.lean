import EntityForge.Command.Records
import EntityForge.Proofs.Command.Summaries

/-!
# What records tell

The records of a request are listed apart from its run, and tell of the steps that the run takes. A
table is told of when it has given its entity, in order and up to the first table that gives none. A
class is told of when it is written, in order and up to the first that is not. That a schema was
written and that a generation is complete is told just where the run ends well.

Records are looked up by the part of the program that makes them and by their words.
-/

namespace EntityForge.Command

open EntityForge.Outcome (bind_eq_ok mapError_eq_ok ok_bind)
open Generation (Options Settings)
open Journal (Details Record Span)
open Model (Entity Naming TypeTable)
open Storage (Path Tree)
open Xml (Element)

/-! ### Looking records up -/

/-- The details of the records that a part of the program makes in some words, in order. -/
def detailsOf (target message : String) (rs : List Record) : List Details :=
  (rs.filter fun r => r.target == target && r.message == message).map (·.details)

section Lookups

variable {target message : String} {rs : List Record}

@[simp] theorem detailsOf_nil : detailsOf target message [] = [] := rfl

@[simp] theorem detailsOf_append (rs rs' : List Record) :
    detailsOf target message (rs ++ rs') =
      detailsOf target message rs ++ detailsOf target message rs' := by
  rw [detailsOf, List.filter_append, List.map_append, detailsOf, detailsOf]

@[simp] theorem detailsOf_cons (r : Record) (rs : List Record) :
    detailsOf target message (r :: rs) =
      (if r.target = target ∧ r.message = message then [r.details] else []) ++
        detailsOf target message rs := by
  rw [detailsOf, List.filter_cons, detailsOf]
  split_ifs <;> simp_all

/-- The spans around records play no part. -/
@[simp] theorem detailsOf_inside (span : Span) (rs : List Record) :
    detailsOf target message (rs.map (·.inside span)) = detailsOf target message rs := by
  induction rs with
  | nil => rfl
  | cons r rs ih => rw [List.map_cons, detailsOf_cons, detailsOf_cons, ih]; rfl

theorem detailsOf_eq_nil (h : ∀ r ∈ rs, r.target = target → r.message ≠ message) :
    detailsOf target message rs = [] := by
  have hnone : ∀ r ∈ rs, ¬ (r.target == target && r.message == message) = true := by
    intro r hr hboth
    simp only [Bool.and_eq_true, beq_iff_eq] at hboth
    exact h r hr hboth.1 hboth.2
  rw [detailsOf, List.filter_eq_nil_iff.mpr hnone, List.map_nil]

theorem detailsOf_of_target {target' : String} (h : ∀ r ∈ rs, r.target = target')
    (hne : target' ≠ target) : detailsOf target message rs = [] :=
  detailsOf_eq_nil fun r hr htarget => absurd ((h r hr).symm.trans htarget) hne

end Lookups

/-! ### Extraction -/

variable {storage : Tree} {naming : Naming} {types : TypeTable} {entities : List Entity}

/-- A record of the extraction that does not say that it is over. -/
def OfElements (r : Record) : Prop :=
  r.target = extractionTarget ∧ r.message ≠ "extracted PDM schema"

theorem ofElements_tableRecords {table : Element} {r : Record}
    (h : r ∈ tableRecords naming types table) : OfElements r := by
  rw [tableRecords] at h
  split at h
  · cases h
  · obtain ⟨r, hr, rfl⟩ := List.mem_map.mp h
    rcases List.mem_append.mp hr with hr | hr
    · split at hr
      · cases hpath : Model.keyPath table <;>
          simp_all [keyPathRecords, extractionRecord, OfElements, Record.inside]
      · cases hr
    · split at hr <;> simp_all [tableRecord, extractionRecord, OfElements, Record.inside]

theorem ofElements_elementsRecords {elements : List Element} {r : Record}
    (h : r ∈ elementsRecords naming types elements) : OfElements r := by
  induction elements with
  | nil => cases h
  | cons e rest ih =>
    rw [elementsRecords] at h
    split_ifs at h with htable hok
    · exact (List.mem_append.mp h).elim ofElements_tableRecords ih
    · exact ofElements_tableRecords (List.append_nil _ ▸ h)
    · rcases List.mem_cons.mp h with rfl | h
      · exact ⟨rfl, by simp [extractionRecord]⟩
      · exact ih h

theorem target_of_mem_extractionRecords {root : Element} {r : Record}
    (h : r ∈ extractionRecords naming types root) : r.target = extractionTarget := by
  obtain ⟨r, hr, rfl⟩ := List.mem_map.mp h
  rcases List.mem_append.mp hr with hr | hr
  · exact (ofElements_elementsRecords hr).1
  · split at hr <;> simp_all [documentRecord, extractionRecord, Record.inside]

/-- What is told of a table that gave an entity. -/
def tableDetails (e : Entity) : Details :=
  [("fields", .number e.fields.length), ("primary_key", .quoted (e.primaryKeyColId.getD "-"))]

/-- What is told of a document that gave entities. -/
def documentDetails (entities : List Entity) : Details :=
  [("entities", .number entities.length),
    ("fields", .number (entities.map (·.fields.length)).sum)]

theorem details_documentRecord (entities : List Entity) :
    (documentRecord entities).details = documentDetails entities := by
  have hsum : entities.foldr (fun e count => e.fields.length + count) 0 =
      (entities.map (·.fields.length)).sum := by
    rw [List.sum, List.foldr_map]
  rw [documentRecord, hsum]
  rfl

/-- The entities of some tables up to the first table that gives none. -/
def entitiesUpTo (naming : Naming) (types : TypeTable) : List Element → List Entity
  | [] => []
  | table :: rest =>
    match Model.entityOfTable naming types table with
    | .ok e => e :: entitiesUpTo naming types rest
    | .error _ => []

theorem entitiesUpTo_of_mapM {tables : List Element}
    (h : tables.mapM (Model.entityOfTable naming types) = .ok entities) :
    entitiesUpTo naming types tables = entities := by
  induction tables generalizing entities with
  | nil => exact Except.ok.inj h
  | cons table rest ih =>
    rw [List.mapM_cons] at h
    obtain ⟨e, he, h⟩ := bind_eq_ok.mp h
    obtain ⟨others, hothers, h⟩ := bind_eq_ok.mp h
    rw [entitiesUpTo, he, ← Except.ok.inj h]
    exact congrArg (e :: ·) (ih hothers)

/-- A table is told of if it gave an entity. -/
theorem detailsOf_tableRecords (naming : Naming) (types : TypeTable) (table : Element) :
    detailsOf extractionTarget "extracted table" (tableRecords naming types table) =
      ((Model.entityOfTable naming types table).toOption.map tableDetails).toList := by
  have hpath : ∀ path, detailsOf extractionTarget "extracted table" (keyPathRecords path) = [] := by
    intro path
    cases path <;> simp [keyPathRecords, extractionRecord]
  rw [tableRecords]
  cases hcode : table.childText? "Code" with
  | none =>
    cases he : Model.entityOfTable naming types table with
    | error f => rfl
    | ok e =>
      obtain ⟨code, -, hcode', -⟩ := (Model.entityOfTable_eq_ok.mp he).code
      rw [hcode] at hcode'
      cases hcode'
  | some code =>
    have hsought : detailsOf extractionTarget "extracted table"
        (if reachesKeyPath code table then keyPathRecords (Model.keyPath table) else []) = [] := by
      split_ifs
      · exact hpath _
      · rfl
    rw [detailsOf_inside, detailsOf_append, hsought, List.nil_append]
    cases Model.entityOfTable naming types table with
    | error f => rfl
    | ok e => rfl

theorem detailsOf_elementsRecords (naming : Naming) (types : TypeTable) (elements : List Element) :
    detailsOf extractionTarget "extracted table" (elementsRecords naming types elements) =
      (entitiesUpTo naming types (elements.filter (·.name == "Table"))).map tableDetails := by
  induction elements with
  | nil => rfl
  | cons e rest ih =>
    rw [elementsRecords, List.filter_cons]
    split_ifs with htable hok
    · rw [detailsOf_append, detailsOf_tableRecords, ih, entitiesUpTo]
      cases he : Model.entityOfTable naming types e with
      | error f => rw [he] at hok; cases hok
      | ok entity => rfl
    · rw [detailsOf_append, detailsOf_tableRecords, detailsOf_nil, entitiesUpTo]
      cases he : Model.entityOfTable naming types e with
      | error f => rfl
      | ok entity => rw [he] at hok; cases hok rfl
    · rw [detailsOf_cons, ih]
      simp [extractionRecord]

/-- The tables of a document. -/
def tablesOf (root : Element) : List Element :=
  (((root.descendant? "Tables").map (·.children)).getD []).filter (·.name == "Table")

/-- Each table is told of once, up to the first that gives no entity. -/
theorem detailsOf_extractionRecords (naming : Naming) (types : TypeTable) (root : Element) :
    detailsOf extractionTarget "extracted table" (extractionRecords naming types root) =
      (entitiesUpTo naming types (tablesOf root)).map tableDetails := by
  rw [extractionRecords, detailsOf_inside, detailsOf_append, detailsOf_elementsRecords, ← tablesOf]
  cases Model.entitiesOfDocument naming types root with
  | error f => exact List.append_nil _
  | ok entities => simp [documentRecord, extractionRecord]

/-- That the extraction is over is told just where it gave entities. -/
theorem detailsOf_extractionRecords_schema (naming : Naming) (types : TypeTable) (root : Element) :
    detailsOf extractionTarget "extracted PDM schema" (extractionRecords naming types root) =
      ((Model.entitiesOfDocument naming types root).toOption.map documentDetails).toList := by
  have helements : ∀ elements, detailsOf extractionTarget "extracted PDM schema"
      (elementsRecords naming types elements) = [] := fun elements =>
    detailsOf_eq_nil fun r hr _ => (ofElements_elementsRecords hr).2
  rw [extractionRecords, detailsOf_inside, detailsOf_append, helements, List.nil_append]
  cases Model.entitiesOfDocument naming types root with
  | error f => rfl
  | ok entities => exact congrArg ([·]) (details_documentRecord entities)

theorem entitiesUpTo_of_document {root : Element}
    (h : Model.entitiesOfDocument naming types root = .ok entities) :
    entitiesUpTo naming types (tablesOf root) = entities := by
  obtain ⟨holder, hholder, h⟩ := bind_eq_ok.mp h
  rw [tablesOf, Model.require_eq_ok.mp hholder]
  exact entitiesUpTo_of_mapM h

/-! ### Loading -/

theorem target_of_mem_loadingRecords {path : Path} {r : Record}
    (h : r ∈ loadingRecords storage naming path) :
    r.target = "pdm_ingest" ∨ r.target = extractionTarget := by
  rw [loadingRecords] at h
  split at h
  · cases h
  · rcases List.mem_cons.mp h with rfl | h
    · exact .inl rfl
    · split at h
      · exact .inr (target_of_mem_extractionRecords h)
      · cases h

/-- A document that is read is told of, and so is each of its tables up to the first that gives no
entity. -/
theorem detailsOf_loadingRecords {path : Path} {text : String} {root : Element}
    (htext : storage.readText path = .ok text)
    (hroot : Model.parse (Model.withoutMark text) = .ok root) :
    detailsOf extractionTarget "extracted table" (loadingRecords storage naming path) =
      (entitiesUpTo naming .standard (tablesOf root)).map tableDetails := by
  rw [loadingRecords, htext]
  simp only [hroot, detailsOf_cons, detailsOf_extractionRecords]
  simp [readingRecord, extractionTarget]

/-- Where the entities of a source can be loaded, each is told of. -/
theorem detailsOf_loadingRecords_of_entities {s : Source} {settings : Settings}
    (h : s.entities storage settings = .ok entities) :
    detailsOf extractionTarget "extracted table"
      (loadingRecords storage settings.naming s.document) = entities.map tableDetails := by
  obtain ⟨text, htext, hload⟩ := bind_eq_ok.mp (mapError_eq_ok.mp h)
  obtain ⟨root, hroot, hentities⟩ := Model.loadText_eq_ok.mp hload
  rw [detailsOf_loadingRecords (mapError_eq_ok.mp htext) (mapError_eq_ok.mpr hroot),
    entitiesUpTo_of_document hentities]

/-- That the extraction is over is told just where a document gives entities. -/
theorem detailsOf_loadingRecords_schema (storage : Tree) (naming : Naming) (path : Path) :
    detailsOf extractionTarget "extracted PDM schema" (loadingRecords storage naming path) =
      ((Model.loadFile storage naming path).toOption.map documentDetails).toList := by
  rw [loadingRecords, Model.loadFile]
  cases storage.readText path with
  | error cause => rfl
  | ok text =>
    have hreading : ¬ ((readingRecord path text).target = extractionTarget ∧
        (readingRecord path text).message = "extracted PDM schema") := by
      simp [readingRecord, extractionTarget]
    rw [detailsOf_cons, if_neg hreading, List.nil_append, Except.mapError, ok_bind, Model.loadText]
    cases Model.parse (Model.withoutMark text) with
    | error e => rfl
    | ok root =>
      rw [ok_bind, Model.extract]
      simp only [detailsOf_extractionRecords_schema]
      cases Model.entitiesOfDocument naming .standard root <;> rfl

/-! ### Writing -/

theorem target_of_mem_writingRecords {o : Options} {r : Record}
    (h : r ∈ writingRecords storage o entities) : r.target = "pdm_report::java" := by
  rw [writingRecords] at h
  split at h
  · cases h
  · rcases List.mem_append.mp h with h | h
    · split_ifs at h
      · rw [List.mem_singleton.mp h]
        rfl
      · cases h
    · obtain ⟨i, hi, rfl⟩ := List.mem_iff_getElem.mp h
      rw [List.getElem_zipWith]
      rfl

/-- What is told of a class that was written to a file. -/
def classDetails (o : Options) (e : Entity) (path : Path) : Details :=
  [("entity", .plain e.name), ("template", .plain o.templateLabel), ("path", .plain path.text)]

theorem detailsOf_classRecords (o : Options) (entities : List Entity) (paths : List Path) :
    detailsOf "pdm_report::java" "generated entity" (List.zipWith (classRecord o) entities paths) =
      List.zipWith (classDetails o) entities paths := by
  induction entities generalizing paths with
  | nil => rfl
  | cons e rest ih =>
    cases paths with
    | nil => rfl
    | cons path paths =>
      rw [List.zipWith_cons_cons, detailsOf_cons, ih]
      rfl

/-- Each class is told of once it is written, whether or not the writing stops behind it. -/
theorem detailsOf_writingRecords (storage : Tree) (o : Options) (entities : List Entity) :
    detailsOf "pdm_report::java" "generated entity" (writingRecords storage o entities) =
      List.zipWith (classDetails o) entities
        (Generation.writing storage o entities).written := by
  rw [writingRecords, Generation.writing]
  cases Generation.plan storage o entities with
  | error f => rw [List.zipWith_nil_right]; rfl
  | ok planned =>
    have hdirectory : detailsOf "pdm_report::java" "generated entity"
        (if Generation.lacksDirectory storage o then [directoryRecord o] else []) = [] := by
      split_ifs
      · simp [directoryRecord]
      · rfl
    simp only
    rw [detailsOf_append, hdirectory, List.nil_append, detailsOf_classRecords]

/-! ### Requests -/

/-- The records of a generation that has ended well: that the schema was written, if it was, and
that the generation is complete. -/
def endingRecords (g : Generate) (entities : List Entity) : List Record :=
  (if g.dryRun then [] else (g.schemaFile.map (schemaRecord · entities)).toList) ++
    [completionRecord entities g.dryRun]

variable {g : Generate} {settings : Settings}

theorem target_of_mem_endingRecords {r : Record} (h : r ∈ endingRecords g entities) :
    r.target = "pdm_report::schema_json" ∨ r.target = requestTarget := by
  rcases List.mem_append.mp h with h | h
  · split_ifs at h
    · cases h
    · obtain ⟨path, -, rfl⟩ := Option.map_eq_some_iff.mp (Option.mem_toList.mp h)
      exact .inl rfl
  · rw [List.mem_singleton.mp h]
    exact .inr rfl

/-- What is told of a schema that was written to a file. -/
def schemaDetails (entities : List Entity) (path : Path) : Details :=
  [("path", .plain path.text), ("entities", .number entities.length)]

theorem detailsOf_endingRecords_schema (g : Generate) (entities : List Entity) :
    detailsOf "pdm_report::schema_json" "wrote schema JSON" (endingRecords g entities) =
      if g.dryRun then [] else (g.schemaFile.map (schemaDetails entities)).toList := by
  rw [endingRecords, detailsOf_append]
  cases g.dryRun <;> cases g.schemaFile <;>
    simp [schemaRecord, schemaDetails, completionRecord, requestTarget]

/-- What is told of a generation that has ended well. -/
def completionDetails (g : Generate) (entities : List Entity) : Details :=
  [("entities", .number entities.length), ("dry_run", .flag g.dryRun), ("elapsed_ms", .elapsed)]

theorem detailsOf_endingRecords_complete (g : Generate) (entities : List Entity) :
    detailsOf requestTarget "generation complete" (endingRecords g entities) =
      [completionDetails g entities] := by
  rw [endingRecords, detailsOf_append]
  cases hdry : g.dryRun <;> cases g.schemaFile <;>
    simp [schemaRecord, completionRecord, completionDetails, requestTarget, hdry]

theorem performingRecords_eq (storage : Tree) (settings : Settings) (entities : List Entity)
    (hdry : g.dryRun = false) : performingRecords storage g settings.options entities =
      writingRecords storage settings.options entities ++
        if (g.perform storage settings entities).2.isOk then endingRecords g entities else [] := by
  rcases hwrite : Generation.writeSources storage settings.options entities with
    ⟨written, f | files⟩
  · simp [performingRecords, Generate.perform, hwrite, Except.isOk, Except.toBool]
  · rcases hschema : g.writeSchemaFile written entities with ⟨after, f | ⟨⟩⟩
    · simp [performingRecords, Generate.perform, hwrite, hschema, Except.isOk, Except.toBool]
    · simp [performingRecords, Generate.perform, hwrite, hschema, endingRecords, hdry, Except.isOk,
        Except.toBool]

/-- The records of a generation whose entities can be loaded: those of the loading, those of the
classes that are written, and those of its end if it ends well. -/
theorem generationRecords_eq (hsettings : g.source.settings storage = .ok settings)
    (hentities : g.source.entities storage settings = .ok entities) :
    generationRecords storage g settings =
      loadingRecords storage settings.naming g.source.document ++
        ((if g.dryRun then [] else writingRecords storage settings.options entities) ++
          if (g.run storage).2.isOk then endingRecords g entities else []) := by
  simp only [generationRecords, Generate.run, hsettings, hentities]
  cases hdry : g.dryRun with
  | true => simp [endingRecords, hdry]
  | false => simp [performingRecords_eq storage settings entities hdry]

theorem records_generate (hsettings : g.source.settings storage = .ok settings) :
    (Request.generate g).records storage = settingsRecords storage g.source.settingsFile ++
      (generationRecords storage g settings).map
        (·.inside (requestSpan "generate" g.source.document)) := by
  rw [Request.records, sourceRecords, hsettings]

theorem detailsOf_settingsRecords {target message : String} (h : "pdm_cli::config" ≠ target)
    (storage : Tree) (file : Option Path) :
    detailsOf target message (settingsRecords storage file) = [] := by
  refine detailsOf_of_target (fun r hr => ?_) h
  rw [settingsRecords] at hr
  split at hr <;> simp_all [settingsRecord]

theorem detailsOf_loadingRecords_of_ne {target message : String} (hloading : "pdm_ingest" ≠ target)
    (hextraction : extractionTarget ≠ target) (storage : Tree) (naming : Naming) (path : Path) :
    detailsOf target message (loadingRecords storage naming path) = [] := by
  refine detailsOf_eq_nil fun r hr htarget => ?_
  rcases target_of_mem_loadingRecords hr with h | h
  · exact absurd (h.symm.trans htarget) hloading
  · exact absurd (h.symm.trans htarget) hextraction

/-- What the records of a generation tell of its run. -/
structure TellsOf (storage : Tree) (g : Generate) (settings : Settings) (entities : List Entity)
    (rs : List Record) : Prop where
  /-- Each table is told of, in order. -/
  tables : detailsOf extractionTarget "extracted table" rs = entities.map tableDetails
  /-- Each class that is written is told of, in order. -/
  classes : detailsOf "pdm_report::java" "generated entity" rs =
    if g.dryRun then [] else List.zipWith (classDetails settings.options) entities
      (Generation.writing storage settings.options entities).written
  /-- A schema that is written is told of. -/
  schema : detailsOf "pdm_report::schema_json" "wrote schema JSON" rs =
    if (g.run storage).2.isOk && !g.dryRun then
      (g.schemaFile.map (schemaDetails entities)).toList else []
  /-- The end is told of if the run ends well. -/
  complete : detailsOf requestTarget "generation complete" rs =
    if (g.run storage).2.isOk then [completionDetails g entities] else []

/-- What a generation tells beside its settings is told while loading, while writing and at the
end. -/
theorem detailsOf_records {target message : String} (hconfig : "pdm_cli::config" ≠ target)
    (hsettings : g.source.settings storage = .ok settings)
    (hentities : g.source.entities storage settings = .ok entities) :
    detailsOf target message ((Request.generate g).records storage) =
      detailsOf target message (loadingRecords storage settings.naming g.source.document) ++
        (detailsOf target message
          (if g.dryRun then [] else writingRecords storage settings.options entities) ++
        detailsOf target message
          (if (g.run storage).2.isOk then endingRecords g entities else [])) := by
  rw [records_generate hsettings, generationRecords_eq hsettings hentities, detailsOf_append,
    detailsOf_inside, detailsOf_settingsRecords hconfig, List.nil_append, detailsOf_append,
    detailsOf_append]

theorem detailsOf_writing_of_ne {target message : String} (h : "pdm_report::java" ≠ target)
    (dryRun : Bool) (storage : Tree) (o : Options) (entities : List Entity) :
    detailsOf target message (if dryRun then [] else writingRecords storage o entities) = [] := by
  split_ifs
  · rfl
  · exact detailsOf_of_target (fun r => target_of_mem_writingRecords) h

theorem detailsOf_ending_of_ne {target message : String}
    (hschema : "pdm_report::schema_json" ≠ target) (hrequest : requestTarget ≠ target) (ok : Bool)
    (g : Generate) (entities : List Entity) :
    detailsOf target message (if ok then endingRecords g entities else []) = [] := by
  split_ifs
  · refine detailsOf_eq_nil fun r hr htarget => ?_
    rcases target_of_mem_endingRecords hr with h | h
    · exact absurd (h.symm.trans htarget) hschema
    · exact absurd (h.symm.trans htarget) hrequest
  · rfl

/-- The records of a generation whose entities can be loaded tell of its run. -/
theorem tellsOf_records (hsettings : g.source.settings storage = .ok settings)
    (hentities : g.source.entities storage settings = .ok entities) :
    TellsOf storage g settings entities ((Request.generate g).records storage) where
  tables := by
    rw [detailsOf_records (by decide) hsettings hentities,
      detailsOf_loadingRecords_of_entities hentities, detailsOf_writing_of_ne (by decide),
      detailsOf_ending_of_ne (by decide) (by decide), List.append_nil, List.append_nil]
  classes := by
    rw [detailsOf_records (by decide) hsettings hentities,
      detailsOf_loadingRecords_of_ne (by decide) (by decide),
      detailsOf_ending_of_ne (by decide) (by decide), List.append_nil, List.nil_append]
    split_ifs
    · rfl
    · exact detailsOf_writingRecords ..
  schema := by
    rw [detailsOf_records (by decide) hsettings hentities,
      detailsOf_loadingRecords_of_ne (by decide) (by decide),
      detailsOf_writing_of_ne (by decide), List.nil_append, List.nil_append]
    split_ifs <;> simp_all [detailsOf_endingRecords_schema]
  complete := by
    rw [detailsOf_records (by decide) hsettings hentities,
      detailsOf_loadingRecords_of_ne (by decide) (by decide),
      detailsOf_writing_of_ne (by decide), List.nil_append, List.nil_append]
    split_ifs
    · exact detailsOf_endingRecords_complete g entities
    · rfl

/-- A generation is told to be complete just where its run ends well. -/
theorem complete_iff (storage : Tree) (g : Generate) :
    detailsOf requestTarget "generation complete" ((Request.generate g).records storage) ≠ [] ↔
      ∃ after told, g.run storage = (after, .ok told) := by
  have hrun : (∃ after told, g.run storage = (after, .ok told)) ↔
      (g.run storage).2.isOk = true := by
    rcases hrun : g.run storage with ⟨after, f | told⟩ <;> simp [Except.isOk, Except.toBool]
  rw [hrun]
  cases hsettings : g.source.settings storage with
  | error f =>
    refine iff_of_false (fun h => h ?_) ?_
    · rw [Request.records, sourceRecords, hsettings, List.append_nil]
      exact detailsOf_settingsRecords (by decide) ..
    · simp [Generate.run, hsettings, Except.isOk, Except.toBool]
  | ok settings =>
    cases hentities : g.source.entities storage settings with
    | error f =>
      refine iff_of_false (fun h => h ?_) ?_
      · rw [records_generate hsettings, generationRecords, hentities, List.append_nil,
          detailsOf_append, detailsOf_inside, detailsOf_settingsRecords (by decide),
          detailsOf_loadingRecords_of_ne (by decide) (by decide), List.append_nil]
      · simp [Generate.run, hsettings, hentities, Except.isOk, Except.toBool]
    | ok entities =>
      rw [(tellsOf_records hsettings hentities).complete]
      split_ifs with hok <;> simp [hok]

/-- That the extraction is over is told just where an inspection has something to show. -/
theorem extracted_iff (storage : Tree) (i : Inspect) :
    detailsOf extractionTarget "extracted PDM schema" ((Request.inspect i).records storage) ≠ [] ↔
      ∃ text, i.run storage = .ok text := by
  rw [Request.records, sourceRecords, Inspect.run, detailsOf_append,
    detailsOf_settingsRecords (by decide), List.nil_append]
  cases i.source.settings storage with
  | error f => exact iff_of_false (fun h => h rfl) fun ⟨_, h⟩ => nomatch h
  | ok settings =>
    simp only [detailsOf_inside, detailsOf_loadingRecords_schema]
    rw [ok_bind, Source.entities]
    cases Model.loadFile storage settings.naming i.source.document with
    | error f => exact iff_of_false (fun h => h rfl) fun ⟨_, h⟩ => nomatch h
    | ok entities => exact iff_of_true (List.cons_ne_nil _ _) ⟨_, rfl⟩

end EntityForge.Command
