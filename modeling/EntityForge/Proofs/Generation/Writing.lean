import EntityForge.Proofs.Generation.Planning
import EntityForge.Proofs.Storage.Directories

/-!
# What a writing leaves behind

A generation that is refused, or whose template fails, leaves the storage as it was: all files are
planned before the first directory is made. Where the storage itself stops the writing, what it
leaves behind are directories on the way to the package and the files of the entities before the one
it stopped at, each in full. A generation that succeeds has written the files of all entities.

Class names are taken to have no slash, so that each file stands in the directory of the package and
different names are different files.
-/

namespace EntityForge.Generation

open Model (Entity)
open Outcome
open Storage (Cause Path Place Tree)
open Storage.Tree

/-! ### Places of classes -/

/-- The name of a file is none of the short names that mean something else. -/
theorem fileName_ne (name : String) {s : String} (hs : s.length < 5) : name ++ ".java" ≠ s := by
  rintro rfl
  have hlength : (name ++ ".java").length = name.length + 5 := by
    rw [String.length_append]
    rfl
  omega

theorem slash_mem_fileName {name : String} :
    '/' ∈ (name ++ ".java").toList ↔ '/' ∈ name.toList := by
  rw [String.toList_append, List.mem_append, or_iff_left (by decide)]

/-- The class of a name without slashes stands in the directory of the package. -/
theorem placeOf_classPath (t : Tree) (o : Options) {name : String} (h : '/' ∉ name.toList) :
    t.placeOf (o.classPath name) = t.placeOf o.packageDir ++ [name ++ ".java"] := by
  have hslash : '/' ∉ (name ++ ".java").toList := mt slash_mem_fileName.mp h
  rw [Options.classPath, placeOf_join t (Path.isAbsolute_eq_false_of_not_mem hslash),
    Path.steps_of_not_mem hslash (fileName_ne name (by decide)),
    Storage.walk_names (List.forall_mem_singleton.mpr
      ⟨fileName_ne name (by decide), fileName_ne name (by decide)⟩)]

/-- Classes of different names stand at different places. -/
theorem name_eq_of_placeOf_eq {t : Tree} {o : Options} {a b : String} (ha : '/' ∉ a.toList)
    (hb : '/' ∉ b.toList) (h : t.placeOf (o.classPath a) = t.placeOf (o.classPath b)) : a = b := by
  rw [placeOf_classPath t o ha, placeOf_classPath t o hb] at h
  have hlast := (List.append_inj' h rfl).2
  exact (String.append_left_inj _).mp (List.singleton_inj.mp hlast)

/-! ### Writing files -/

/-- The files of a plan stand where their paths lead, each with its whole text, and nothing else is
different. -/
structure Wrote (t t' : Tree) (done : List Planned) : Prop where
  /-- Directories are kept. -/
  keeps : t.Keeps t'
  /-- The paths still lead to the files. -/
  locate : ∀ p ∈ done, t'.locate p.path = .ok (.named (t.placeOf p.path), false)
  /-- The files hold their texts. -/
  entry : ∀ p ∈ done, t'.entry? (t.placeOf p.path) = some (.file p.source.toUTF8)
  /-- Everything else is as it was. -/
  others : ∀ q, (∀ p ∈ done, q ≠ t.placeOf p.path) → t'.entry? q = t.entry? q

theorem Wrote.nil (t : Tree) : Wrote t t [] :=
  ⟨Keeps.refl t, by simp, by simp, fun _ _ => rfl⟩

theorem Wrote.find {t t' : Tree} {done : List Planned} (h : Wrote t t' done) {p : Planned}
    (hp : p ∈ done) : t'.find p.path = .ok (.file p.source.toUTF8) :=
  find_of_locate (h.locate p hp) (h.entry p hp)

/-- One more file in front, at a place of its own. -/
theorem Wrote.cons {t t₁ t' : Tree} {p : Planned} {done : List Planned}
    (hwrite : t.writeText p.path p.source = .ok t₁) (h : Wrote t₁ t' done)
    (hplaces : ∀ q ∈ done, t.placeOf q.path ≠ t.placeOf p.path) : Wrote t t' (p :: done) := by
  obtain ⟨place, hlocate, hdir, rfl⟩ := writeText_eq_ok.mp hwrite
  obtain ⟨hplace, -, hnamed⟩ := locate_eq_ok hlocate
  have hroot := (hnamed place rfl).1
  have hplace' : place = t.placeOf p.path := hplace
  subst hplace'
  have hkeeps := keeps_set (.file p.source.toUTF8) hdir
  have hsame : ∀ r : Path, Tree.placeOf (t.set (t.placeOf p.path) (.file p.source.toUTF8)) r =
      t.placeOf r := fun r => placeOf_congr rfl r
  have hlater : ∀ q ∈ done, t.placeOf p.path ≠ t.placeOf q.path := fun q hq =>
    Ne.symm (hplaces q hq)
  refine ⟨hkeeps.trans h.keeps, fun q hq => ?_, fun q hq => ?_, fun q hq => ?_⟩
  · rcases List.mem_cons.mp hq with rfl | hq
    · exact h.keeps.locate (hkeeps.locate hlocate)
    · rw [← hsame q.path]
      exact h.locate q hq
  · rcases List.mem_cons.mp hq with rfl | hq
    · rw [h.others _ fun r hr => by rw [hsame]; exact hlater r hr]
      exact entry?_set_self t _ hroot
    · rw [← hsame q.path]
      exact h.entry q hq
  · rw [h.others q fun r hr => by rw [hsame]; exact hq r (List.mem_cons_of_mem p hr)]
    exact entry?_set_of_ne t _ (hq p List.mem_cons_self)

/-- Writing files one after another writes the first ones in full, and stops at one of them or not
at all. -/
theorem writeAll_spec {t : Tree} {planned : List Planned}
    (hplaces : planned.Pairwise fun p q => t.placeOf q.path ≠ t.placeOf p.path) :
    ∃ done rest, planned = done ++ rest ∧ (writeAll t planned).written = done.map (·.path) ∧
      Wrote t (writeAll t planned).storage done ∧
      ((writeAll t planned).failure = none ∧ rest = [] ∨
        ∃ p later cause, rest = p :: later ∧ (writeAll t planned).failure =
          some { activities := [s!"write {p.path.text}"], root := .storage cause }) := by
  induction planned generalizing t with
  | nil => exact ⟨[], [], rfl, rfl, Wrote.nil t, .inl ⟨rfl, rfl⟩⟩
  | cons p rest ih =>
    obtain ⟨hhead, htail⟩ := List.pairwise_cons.mp hplaces
    cases hwrite : t.writeText p.path p.source with
    | error cause =>
      simp only [writeAll, hwrite, storing, Except.mapError]
      exact ⟨[], p :: rest, rfl, rfl, Wrote.nil t, .inr ⟨p, rest, cause, rfl, rfl⟩⟩
    | ok t₁ =>
      obtain ⟨place, -, -, rfl⟩ := writeText_eq_ok.mp hwrite
      simp only [writeAll, hwrite, storing, Except.mapError]
      obtain ⟨done, later, rfl, hwritten, hwrote, hend⟩ := ih (t := t.set place _) htail
      refine ⟨p :: done, later, rfl, by rw [hwritten]; rfl, hwrote.cons hwrite fun q hq => ?_, hend⟩
      exact hhead q (List.mem_append_left later hq)

/-! ### Writing a plan -/

/-- What a writing leaves behind once the classes of some entities have been written. -/
structure LeftBehind (before after : Tree) (o : Options) (written : List Entity) : Prop where
  /-- Relative paths start from the same place. -/
  workingPlace : after.workingPlace = before.workingPlace
  /-- The file of each entity holds the whole text of its class, as it was rendered before. -/
  files : ∀ e ∈ written, ∃ text, renderEntity before o e = .ok text ∧
    after.find (o.classPath e.name) = .ok (.file text.toUTF8)
  /-- Everything else is as it was, or is a new directory on the path of the package. -/
  others : ∀ q, (∀ e ∈ written, q ≠ before.placeOf (o.classPath e.name)) →
    after.entry? q = before.entry? q ∨
      before.entry? q = none ∧ after.entry? q = some .directory ∧ before.OnPath o.packageDir q

/-- Where the storage stops a writing: the failure, the entities whose classes are written and the
remaining ones, the first of which it stops at. -/
inductive StopsAt (o : Options) (cause : Cause) : Failure → List Entity → List Entity → Prop
  /-- The directory of the package cannot be made. -/
  | directory (entities : List Entity) :
    StopsAt o cause
      { activities := [s!"create {o.packageDir.text}"], root := .storage cause } [] entities
  /-- The file of an entity cannot be written. -/
  | file (written : List Entity) (e : Entity) (later : List Entity) :
    StopsAt o cause
      { activities := [s!"write {(o.classPath e.name).text}"], root := .storage cause }
      written (e :: later)

/-- The files of a plan stand at different places. -/
theorem pairwise_placeOf {storage : Tree} {o : Options} {origin : Origin} {entities : List Entity}
    {planned : List Planned} (t : Tree)
    (hplanned : List.Forall₂ (PlannedFrom storage o origin) entities planned)
    (hpaths : planned.Pairwise fun p q => q.path.same p.path = false)
    (hnames : ∀ e ∈ entities, '/' ∉ e.name.toList) :
    planned.Pairwise fun p q => t.placeOf q.path ≠ t.placeOf p.path := by
  refine hpaths.imp_of_mem fun {p q} hp hq hsame heq => ?_
  obtain ⟨e, he, hpe⟩ := exists_left_of_forall₂ hplanned hp
  obtain ⟨e', he', hqe⟩ := exists_left_of_forall₂ hplanned hq
  rw [hpe.path, hqe.path] at heq
  have hname := name_eq_of_placeOf_eq (hnames e' he') (hnames e he) heq
  rw [hpe.path, hqe.path, hname, Path.same, beq_self_eq_true] at hsame
  cases hsame

/-- The files of a plan, once some are written on top of directories made for the package. -/
theorem leftBehind_of_wrote {storage t t' : Tree} {o : Options} {origin : Origin}
    {written : List Entity} {done : List Planned} (horigin : o.origin storage = .ok origin)
    (hplanned : List.Forall₂ (PlannedFrom storage o origin) written done)
    (hmade : MadeOn o.packageDir storage t) (hwrote : Wrote t t' done) :
    LeftBehind storage t' o written := by
  refine ⟨hwrote.keeps.workingPlace.trans hmade.workingPlace, fun e he => ?_, fun q hq => ?_⟩
  · obtain ⟨p, hp, hpe⟩ := exists_right_of_forall₂ hplanned he
    refine ⟨p.source, (renderEntity_eq horigin e).trans hpe.source, ?_⟩
    rw [← hpe.path]
    exact hwrote.find hp
  · rw [hwrote.others q fun p hp => ?_]
    · exact hmade.entry q
    · obtain ⟨e, he, hpe⟩ := exists_left_of_forall₂ hplanned hp
      rw [placeOf_congr hmade.workingPlace, hpe.path]
      exact hq e he

/-- Writing a plan writes the classes of the first entities, and stops at one of them or not at
all. -/
theorem writePlanned_spec {storage : Tree} {o : Options} {entities : List Entity}
    {planned : List Planned} (hplan : plan storage o entities = .ok planned)
    (hnames : ∀ e ∈ entities, '/' ∉ e.name.toList) :
    ∃ written rest, entities = written ++ rest ∧
      LeftBehind storage (writePlanned storage o planned).storage o written ∧
      (writePlanned storage o planned).written = written.map (fun e => o.classPath e.name) ∧
      ((writePlanned storage o planned).failure = none ∧ rest = [] ∨
        ∃ cause failure, (writePlanned storage o planned).failure = some failure ∧
          StopsAt o cause failure written rest) := by
  obtain ⟨-, origin, horigin, hall⟩ := plan_eq_ok.mp hplan
  obtain ⟨hplanned, -, hpaths⟩ := planAll_eq_ok.mp hall
  have hfiles : ∀ t, MadeOn o.packageDir storage t →
      ∃ written rest, entities = written ++ rest ∧
        LeftBehind storage (writeAll t planned).storage o written ∧
        (writeAll t planned).written = written.map (fun e => o.classPath e.name) ∧
        ((writeAll t planned).failure = none ∧ rest = [] ∨
          ∃ cause failure, (writeAll t planned).failure = some failure ∧
            StopsAt o cause failure written rest) := by
    intro t hmade
    obtain ⟨done, later, hsplit, hwritten, hwrote, hend⟩ :=
      writeAll_spec (pairwise_placeOf t hplanned hpaths hnames)
    rw [hsplit] at hplanned
    have hdone := List.forall₂_take_append entities done later hplanned
    have hlater := List.forall₂_drop_append entities done later hplanned
    refine ⟨entities.take done.length, entities.drop done.length,
      (List.take_append_drop _ _).symm, leftBehind_of_wrote horigin hdone hmade hwrote, ?_, ?_⟩
    · rw [hwritten, map_path_eq hdone]
    · rcases hend with ⟨hnone, rfl⟩ | ⟨p, after, cause, rfl, hfailure⟩
      · exact .inl ⟨hnone, List.forall₂_nil_right_iff.mp hlater⟩
      · obtain ⟨e, rest, hpe, -, heq⟩ := List.forall₂_cons_right_iff.mp hlater
        rw [heq]
        refine .inr ⟨cause, _, hfailure, ?_⟩
        rw [hpe.path]
        exact .file _ e rest
  unfold writePlanned
  split
  · have hmade := madeOn_makeDirectories storage o.packageDir
    split
    · next t hmake =>
      rw [hmake] at hmade
      exact hfiles t hmade
    · next t cause hmake =>
      rw [hmake] at hmade
      exact ⟨[], entities, rfl, leftBehind_of_wrote horigin .nil hmade (Wrote.nil t), rfl,
        .inr ⟨cause, _, rfl, .directory entities⟩⟩
  · exact hfiles storage (MadeOn.refl _ _)

/-- Files that are written stop for a cause of the storage. -/
theorem isStorage_writeAll {t : Tree} {planned : List Planned} {f : Failure}
    (h : (writeAll t planned).failure = some f) : f.IsStorage := by
  induction planned generalizing t with
  | nil => cases h
  | cons p rest ih =>
    cases hwrite : t.writeText p.path p.source with
    | error cause =>
      simp only [writeAll, hwrite, storing, Except.mapError] at h
      cases h
      exact ⟨cause, rfl⟩
    | ok t₁ =>
      simp only [writeAll, hwrite, storing, Except.mapError] at h
      exact ih h

/-- A plan that is written stops for a cause of the storage. -/
theorem isStorage_writePlanned {storage : Tree} {o : Options} {planned : List Planned}
    {f : Failure} (h : (writePlanned storage o planned).failure = some f) : f.IsStorage := by
  unfold writePlanned at h
  split at h
  · split at h
    · exact isStorage_writeAll h
    · next cause _ =>
      cases h
      exact ⟨cause, rfl⟩
  · exact isStorage_writeAll h

/-! ### Generations that fail -/

theorem writeSources_eq_error {storage storage' : Tree} {o : Options} {entities : List Entity}
    {failure : Failure} :
    writeSources storage o entities = (storage', .error failure) ↔
      (writing storage o entities).storage = storage' ∧
        (writing storage o entities).failure = some failure := by
  rw [writeSources, Prod.mk.injEq, Writing.result]
  refine and_congr_right fun _ => ?_
  cases (writing storage o entities).failure with
  | none => simp
  | some f => simp

/-- A generation that fails for a reason of its own leaves the storage as it was. One that the
storage stops has made directories on the path of the package and written the classes of the
entities before the one it stopped at, and has changed nothing else. -/
theorem writeSources_error {storage storage' : Tree} {o : Options} {entities : List Entity}
    {failure : Failure} (h : writeSources storage o entities = (storage', .error failure)) :
    (¬ failure.IsStorage → storage' = storage) ∧
      (failure.IsStorage → (∀ e ∈ entities, '/' ∉ e.name.toList) →
        ∃ cause written rest, entities = written ++ rest ∧
          StopsAt o cause failure written rest ∧ LeftBehind storage storage' o written) := by
  obtain ⟨hstorage, hfailure⟩ := writeSources_eq_error.mp h
  rw [writing] at hstorage hfailure
  cases hplan : plan storage o entities with
  | error f =>
    rw [hplan] at hstorage hfailure
    cases hfailure
    exact ⟨fun _ => hstorage.symm, fun hcause => absurd hcause (not_isStorage_plan hplan)⟩
  | ok planned =>
    rw [hplan] at hstorage hfailure
    refine ⟨fun hcause => absurd (isStorage_writePlanned hfailure) hcause, fun _ hnames => ?_⟩
    obtain ⟨written, rest, hsplit, hleft, -, hend⟩ := writePlanned_spec hplan hnames
    rw [← hstorage]
    rcases hend with ⟨hnone, -⟩ | ⟨cause, failure', hsome, hstops⟩
    · rw [hnone] at hfailure
      cases hfailure
    · rw [hsome] at hfailure
      cases hfailure
      exact ⟨cause, written, rest, hsplit, hstops, hleft⟩

/-- A table without columns. -/
def bareEntity (name : String) : Entity :=
  { name, tableName := name, comment := none, creator := none, createDate := none
    tableId := "", primaryKeyColId := none, fields := [], dependencies := Model.NameSet.ofList [] }

/-- A storage in which a directory has the name of the file of the class `B`. -/
def occupied : Tree :=
  { entries := [(["src"], .directory), (["src", "main"], .directory),
      (["src", "main", "java"], .directory), (["src", "main", "java", "B.java"], .directory)] }

/-- Where nothing may be replaced, the directory is found before the class `A` is written. Otherwise
it stops the writing after that class. -/
theorem writeSources_occupied :
    (writeSources occupied {} [bareEntity "A", bareEntity "B"]).1 = occupied ∧
      ∃ cause written rest, [bareEntity "A", bareEntity "B"] = written ++ rest ∧
        StopsAt { overwrite := true } cause
          { activities := ["write ./src/main/java/B.java"], root := .storage .isDirectory }
          written rest ∧
        LeftBehind occupied
          (writeSources occupied { overwrite := true } [bareEntity "A", bareEntity "B"]).1
          { overwrite := true } written := by
  constructor
  · have hfailure : (writing occupied {} [bareEntity "A", bareEntity "B"]).failure = some (.refusal
        "./src/main/java/B.java already exists; enable overwrite to replace it") := by
      decide +kernel
    exact (writeSources_error (writeSources_eq_error.mpr ⟨rfl, hfailure⟩)).1
      (not_isStorage_refusal _)
  · have hfailure : (writing occupied { overwrite := true }
        [bareEntity "A", bareEntity "B"]).failure = some
          { activities := ["write ./src/main/java/B.java"], root := .storage .isDirectory } := by
      decide +kernel
    exact (writeSources_error (writeSources_eq_error.mpr ⟨rfl, hfailure⟩)).2 ⟨_, rfl⟩
      (by decide +kernel)

/-! ### Generations that succeed -/

theorem writeSources_eq_ok {storage storage' : Tree} {o : Options} {entities : List Entity}
    {paths : List Path} :
    writeSources storage o entities = (storage', .ok paths) ↔
      (writing storage o entities).storage = storage' ∧
        (writing storage o entities).failure = none ∧
        (writing storage o entities).written = paths := by
  rw [writeSources, Prod.mk.injEq, Writing.result]
  refine and_congr_right fun _ => ?_
  cases (writing storage o entities).failure with
  | none => simp
  | some f => simp

/-- Files that are all written are written in order. -/
theorem written_writeAll {t : Tree} {planned : List Planned}
    (h : (writeAll t planned).failure = none) :
    (writeAll t planned).written = planned.map (·.path) := by
  induction planned generalizing t with
  | nil => rfl
  | cons p rest ih =>
    cases hwrite : t.writeText p.path p.source with
    | error cause =>
      simp only [writeAll, hwrite, storing, Except.mapError] at h
      cases h
    | ok t₁ =>
      simp only [writeAll, hwrite, storing, Except.mapError] at h ⊢
      rw [ih h, List.map_cons]

theorem written_writePlanned {storage : Tree} {o : Options} {planned : List Planned}
    (h : (writePlanned storage o planned).failure = none) :
    (writePlanned storage o planned).written = planned.map (·.path) := by
  revert h
  unfold writePlanned
  split
  · split
    · exact written_writeAll
    · exact fun h => nomatch h
  · exact written_writeAll

/-- A generation succeeds just where there is a plan that is written with no failure. -/
theorem writeSources_eq_ok_iff_plan {storage storage' : Tree} {o : Options}
    {entities : List Entity} {files : List Path} :
    writeSources storage o entities = (storage', .ok files) ↔
      ∃ planned, plan storage o entities = .ok planned ∧
        (writePlanned storage o planned).failure = none ∧
        (writePlanned storage o planned).storage = storage' ∧ planned.map (·.path) = files := by
  rw [writeSources_eq_ok, writing]
  cases plan storage o entities with
  | error f =>
    constructor
    · rintro ⟨-, hfailure, -⟩
      cases hfailure
    · rintro ⟨planned, hplan, -⟩
      cases hplan
  | ok planned =>
    constructor
    · rintro ⟨hstorage, hfailure, hwritten⟩
      exact ⟨planned, rfl, hfailure, hstorage, (written_writePlanned hfailure).symm.trans hwritten⟩
    · rintro ⟨planned, hplan, hfailure, hstorage, hfiles⟩
      cases hplan
      exact ⟨hstorage, hfailure, (written_writePlanned hfailure).trans hfiles⟩

/-- A generation that succeeds was planned from a valid package and one origin, and its files are
the planned ones, whatever their names are. -/
theorem planned_of_writeSources {storage storage' : Tree} {o : Options} {entities : List Entity}
    {files : List Path} (h : writeSources storage o entities = (storage', .ok files)) :
    o.validate = .ok () ∧ ∃ origin planned, o.origin storage = .ok origin ∧
      List.Forall₂ (PlannedFrom storage o origin) entities planned ∧
      files = planned.map (·.path) := by
  obtain ⟨planned, hplan, -, -, rfl⟩ := writeSources_eq_ok_iff_plan.mp h
  obtain ⟨hvalid, origin, horigin, hall⟩ := plan_eq_ok.mp hplan
  exact ⟨hvalid, origin, planned, horigin, (planAll_eq_ok.mp hall).1, rfl⟩

/-- A generation that succeeds was planned, and its files are those of the classes. -/
theorem files_of_writeSources {storage storage' : Tree} {o : Options} {entities : List Entity}
    {files : List Path} (h : writeSources storage o entities = (storage', .ok files)) :
    o.validate = .ok () ∧ (∃ origin, o.origin storage = .ok origin) ∧
      files = entities.map fun e => o.classPath e.name := by
  obtain ⟨hvalid, origin, planned, horigin, hplanned, rfl⟩ := planned_of_writeSources h
  exact ⟨hvalid, ⟨origin, horigin⟩, map_path_eq hplanned⟩

/-- A generation that succeeds writes no class with two fields of one name. -/
theorem nodup_fields_of_writeSources {storage storage' : Tree} {o : Options}
    {entities : List Entity} {files : List Path}
    (h : writeSources storage o entities = (storage', .ok files)) :
    ∀ e ∈ entities, (e.fields.map (·.name)).Nodup := by
  intro e he
  obtain ⟨-, origin, planned, -, hplanned, -⟩ := planned_of_writeSources h
  obtain ⟨p, -, hp⟩ := exists_right_of_forall₂ hplanned he
  exact (fieldClash?_eq_none.mp hp.fields).1

/-- A generation that succeeds gives the paths of the classes of its entities, in order, no two of
them the same path. The file of each class holds its whole text, as it was rendered before anything
was written, and nothing else has changed but for new directories on the path of the package. -/
theorem writeSources_ok {storage storage' : Tree} {o : Options} {entities : List Entity}
    {paths : List Path} (h : writeSources storage o entities = (storage', .ok paths))
    (hnames : ∀ e ∈ entities, '/' ∉ e.name.toList) :
    paths = entities.map (fun e => o.classPath e.name) ∧
      paths.Pairwise (fun p q => q.same p = false) ∧ LeftBehind storage storage' o entities := by
  obtain ⟨hstorage, hfailure, hwritten⟩ := writeSources_eq_ok.mp h
  rw [writing] at hstorage hfailure hwritten
  cases hplan : plan storage o entities with
  | error f =>
    rw [hplan] at hfailure
    cases hfailure
  | ok planned =>
    rw [hplan] at hstorage hfailure hwritten
    obtain ⟨written, rest, hsplit, hleft, hpaths, hend⟩ := writePlanned_spec hplan hnames
    obtain rfl : rest = [] := by
      rcases hend with ⟨-, hrest⟩ | ⟨cause, failure, hsome, -⟩
      · exact hrest
      · rw [hfailure] at hsome
        cases hsome
    rw [List.append_nil] at hsplit
    subst hsplit
    obtain ⟨-, origin, -, hall⟩ := plan_eq_ok.mp hplan
    obtain ⟨hplanned, -, hdistinct⟩ := planAll_eq_ok.mp hall
    have hmap : paths = planned.map (·.path) := by
      rw [← hwritten, hpaths, map_path_eq hplanned]
    refine ⟨by rw [← hwritten, hpaths], ?_, hstorage ▸ hleft⟩
    rw [hmap, List.pairwise_map]
    exact hdistinct

/-- A storage with an old class `A` and a file beside it. -/
def outdated : Tree :=
  { entries := [(["src"], .directory), (["src", "main"], .directory),
      (["src", "main", "java"], .directory),
      (["src", "main", "java", "A.java"], .file "old".toUTF8),
      (["src", "main", "java", "C.java"], .file "kept".toUTF8)] }

/-- The old class is replaced, the other one is new, and the file beside them is as it was. -/
theorem writeSources_outdated :
    ∃ after, writeSources outdated { overwrite := true } [bareEntity "A", bareEntity "B"] =
        (after, .ok [⟨"./src/main/java/A.java"⟩, ⟨"./src/main/java/B.java"⟩]) ∧
      LeftBehind outdated after { overwrite := true } [bareEntity "A", bareEntity "B"] := by
  have hfailure : (writing outdated { overwrite := true }
      [bareEntity "A", bareEntity "B"]).failure = none := by decide +kernel
  have hwritten : (writing outdated { overwrite := true }
      [bareEntity "A", bareEntity "B"]).written =
      [⟨"./src/main/java/A.java"⟩, ⟨"./src/main/java/B.java"⟩] := by decide +kernel
  have hok := writeSources_eq_ok.mpr ⟨rfl, hfailure, hwritten⟩
  exact ⟨_, hok, (writeSources_ok hok (by decide +kernel)).2.2⟩

end EntityForge.Generation
