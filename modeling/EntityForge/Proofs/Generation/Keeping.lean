import EntityForge.Proofs.Generation.Writing
import EntityForge.Proofs.Storage.Files

/-!
# Files that a generation keeps

A generation that may not replace anything looks for the files of its classes before it makes the
directory of the package. A path that goes through a missing directory and up again finds nothing
then, and leads to a file once the directory has been made: such a file is written over. All other
files are kept, however the generation ends. There are no such paths where the directory of the
package exists, and none where no path has a step up.
-/

namespace EntityForge.Generation

open Model (Entity)
open Outcome
open Storage (Path Place Tree)
open Storage.Tree

/-! ### Hidden files -/

/-- The storage that files are written to: the directory of the classes has been made, as far as it
could be, if it was missing. -/
def prepared (storage : Tree) (o : Options) : Tree :=
  if lacksDirectory storage o then (storage.makeDirectories o.packageDir).1 else storage

/-- The class of an entity has a hidden file: its path leads to a file only once the directory of
the classes has been made. -/
def Hidden (storage : Tree) (o : Options) (e : Entity) : Prop :=
  storage.exists? (o.classPath e.name) = false ∧
    (prepared storage o).isFile (o.classPath e.name) = true

theorem madeOn_prepared (storage : Tree) (o : Options) :
    MadeOn o.packageDir storage (prepared storage o) := by
  rw [prepared]
  split_ifs
  · exact madeOn_makeDirectories storage o.packageDir
  · exact MadeOn.refl _ _

/-- Where the directory of the classes exists, nothing is hidden. -/
theorem not_hidden_of_exists {storage : Tree} {o : Options}
    (h : storage.exists? o.packageDir = true) (e : Entity) : ¬ Hidden storage o e := by
  rintro ⟨hmissing, hfile⟩
  have hsame : prepared storage o = storage := by simp [prepared, lacksDirectory, h]
  rw [hsame] at hfile
  obtain ⟨q, content, hlocate, hentry⟩ := isFile_iff.mp hfile
  rw [exists?_of_locate hlocate hentry] at hmissing
  cases hmissing

/-- Where the path of a class has no step up, nothing is hidden. -/
theorem not_hidden_of_wellFormed {storage : Tree} (hwf : storage.WellFormed) {o : Options}
    {e : Entity} (hup : ".." ∉ (o.classPath e.name).steps) : ¬ Hidden storage o e := by
  rintro ⟨hmissing, hfile⟩
  obtain ⟨q, content, hlocate, hentry⟩ := isFile_iff.mp hfile
  have hmade := madeOn_prepared storage o
  have hbefore := hmade.file hentry
  have hfound := locate_of_wellFormed hwf hmade.workingPlace hup hlocate
    (hbefore ▸ Option.some_ne_none _)
  rw [exists?_of_locate hfound hbefore] at hmissing
  cases hmissing

/-! ### Writing files -/

theorem writeAll_cons_of_ok {t t' : Tree} {p : Planned} (h : t.writeText p.path p.source = .ok t')
    (rest : List Planned) :
    (writeAll t (p :: rest)).storage = (writeAll t' rest).storage ∧
      (writeAll t (p :: rest)).failure = (writeAll t' rest).failure := by
  simp only [writeAll, h, storing, Except.mapError, and_self]

/-- Files are kept if none of the paths leads to one of them. -/
theorem keepsFiles_writeAll {before t : Tree} {planned : List Planned}
    (hfiles : before.KeepsFiles t)
    (hfree : ∀ p ∈ planned, ∀ q content, t.locate p.path = .ok (.named q, false) →
      before.entry? q ≠ some (.file content)) :
    before.KeepsFiles (writeAll t planned).storage := by
  induction planned generalizing t with
  | nil => exact hfiles
  | cons p rest ih =>
    cases hwrite : t.writeText p.path p.source with
    | error cause =>
      simp only [writeAll, hwrite, storing, Except.mapError]
      exact hfiles
    | ok t' =>
      rw [(writeAll_cons_of_ok hwrite rest).1]
      obtain ⟨place, hlocate, -, rfl⟩ := writeText_eq_ok.mp hwrite
      refine ih (fun q content hq => ?_) fun r hr q content hq => ?_
      · have hne : q ≠ place := fun heq =>
          hfree p List.mem_cons_self place content hlocate (heq ▸ hq)
        rw [entry?_set_of_ne t _ hne]
        exact hfiles q content hq
      · -- a file that is written makes no further path lead anywhere
        exact hfree r (List.mem_cons_of_mem p hr) q content ((keeps_of_set t place _).locate hq)

/-- A place that no path leads to is left as it was. -/
theorem entry?_writeAll_of_ne {t : Tree} {planned : List Planned} {q : Place}
    (h : ∀ p ∈ planned, t.placeOf p.path ≠ q) :
    (writeAll t planned).storage.entry? q = t.entry? q := by
  induction planned generalizing t with
  | nil => rfl
  | cons p rest ih =>
    cases hwrite : t.writeText p.path p.source with
    | error cause => simp only [writeAll, hwrite, storing, Except.mapError]
    | ok t' =>
      rw [(writeAll_cons_of_ok hwrite rest).1]
      obtain ⟨place, hlocate, -, rfl⟩ := writeText_eq_ok.mp hwrite
      have hplace : place = t.placeOf p.path := (locate_eq_ok hlocate).1
      have hrest : ∀ r ∈ rest, Tree.placeOf (t.set place (.file p.source.toUTF8)) r.path ≠ q :=
        fun r hr heq => h r (List.mem_cons_of_mem p hr) ((placeOf_congr rfl r.path).symm.trans heq)
      rw [ih hrest]
      exact entry?_set_of_ne t _ fun heq => h p List.mem_cons_self (heq.trans hplace).symm

/-- Where all files are written, each path leads to a text that was written last. -/
theorem entry?_writeAll {t : Tree} {planned : List Planned}
    (h : (writeAll t planned).failure = none) {p : Planned} (hp : p ∈ planned) :
    ∃ p' ∈ planned, t.placeOf p'.path = t.placeOf p.path ∧
      (writeAll t planned).storage.entry? (t.placeOf p.path) = some (.file p'.source.toUTF8) := by
  induction planned generalizing t p with
  | nil => cases hp
  | cons r rest ih =>
    cases hwrite : t.writeText r.path r.source with
    | error cause =>
      simp only [writeAll, hwrite, storing, Except.mapError] at h
      cases h
    | ok t' =>
      obtain ⟨hstorage, hfailure⟩ := writeAll_cons_of_ok hwrite rest
      rw [hfailure] at h
      rw [hstorage]
      obtain ⟨place, hlocate, -, rfl⟩ := writeText_eq_ok.mp hwrite
      obtain ⟨hplace, -, hnamed⟩ := locate_eq_ok hlocate
      obtain rfl : place = t.placeOf r.path := hplace
      have hplaces : ∀ path : Path, Tree.placeOf (t.set (t.placeOf r.path)
          (.file r.source.toUTF8)) path = t.placeOf path := fun path => placeOf_congr rfl path
      by_cases hlater : ∃ p' ∈ rest, t.placeOf p'.path = t.placeOf p.path
      · obtain ⟨p', hp', hsame⟩ := hlater
        obtain ⟨last, hlast, hlastPlace, hentry⟩ := ih h hp'
        rw [hplaces, hplaces] at hlastPlace
        rw [hplaces, hsame] at hentry
        exact ⟨last, List.mem_cons_of_mem r hlast, hlastPlace.trans hsame, hentry⟩
      · -- no later file has that place, so the file is the one in front
        obtain rfl : p = r := (List.mem_cons.mp hp).resolve_right fun hp => hlater ⟨p, hp, rfl⟩
        refine ⟨p, List.mem_cons_self, rfl, ?_⟩
        rw [entry?_writeAll_of_ne fun p' hp' => by
          rw [hplaces]
          exact fun heq => hlater ⟨p', hp', heq⟩]
        exact entry?_set_self t _ (hnamed _ rfl).1

/-! ### Generations that may not replace anything -/

/-- A plan is written to the prepared storage, unless preparing it fails. -/
theorem writePlanned_eq (storage : Tree) (o : Options) (planned : List Planned) :
    writePlanned storage o planned = writeAll (prepared storage o) planned ∨
      (writePlanned storage o planned).storage = prepared storage o ∧
        (writePlanned storage o planned).failure ≠ none := by
  rw [writePlanned, prepared]
  split_ifs
  · split
    · next t hmake => exact .inl (by rw [hmake])
    · next t cause hmake => exact .inr ⟨by rw [hmake], Option.some_ne_none _⟩
  · exact .inl rfl

/-- The files of a plan that may replace nothing leave all files as they are, unless one is
hidden. -/
theorem keepsFiles_writePlanned {storage : Tree} {o : Options} {origin : Origin}
    {entities : List Entity} {planned : List Planned} (hkeep : o.overwrite = false)
    (hplanned : List.Forall₂ (PlannedFrom storage o origin) entities planned)
    (hhidden : ∀ e ∈ entities, ¬ Hidden storage o e) :
    storage.KeepsFiles (writePlanned storage o planned).storage := by
  have hmade := (madeOn_prepared storage o).keepsFiles
  rcases writePlanned_eq storage o planned with heq | ⟨hstorage, -⟩
  · rw [heq]
    refine keepsFiles_writeAll hmade fun p hp q content hlocate hentry => ?_
    obtain ⟨e, he, hpe⟩ := exists_left_of_forall₂ hplanned hp
    have hfile : (prepared storage o).isFile p.path = true :=
      isFile_iff.mpr ⟨q, content, hlocate, hmade q content hentry⟩
    have hmissing : storage.exists? p.path = false := by
      rw [Bool.eq_false_iff]
      intro hexists
      rw [hpe.free hexists] at hkeep
      cases hkeep
    rw [hpe.path] at hfile hmissing
    exact hhidden e he ⟨hmissing, hfile⟩
  · rw [hstorage]
    exact hmade

/-- A file that was there holds the text of the class of one of some entities. -/
def WrittenOver (before after : Tree) (o : Options) (entities : List Entity) (q : Place) : Prop :=
  (∃ content, before.entry? q = some (.file content)) ∧
    ∃ e ∈ entities, ∃ text, renderEntity before o e = .ok text ∧
      after.entry? q = some (.file text.toUTF8)

theorem writtenOver_of_hidden {storage : Tree} {o : Options} {origin : Origin}
    {entities : List Entity} {planned : List Planned} (horigin : o.origin storage = .ok origin)
    (hplanned : List.Forall₂ (PlannedFrom storage o origin) entities planned)
    (hnone : (writePlanned storage o planned).failure = none) {e : Entity} (he : e ∈ entities)
    (hhidden : Hidden storage o e) :
    WrittenOver storage (writePlanned storage o planned).storage o entities
      (storage.placeOf (o.classPath e.name)) := by
  have hmade := madeOn_prepared storage o
  rcases writePlanned_eq storage o planned with heq | ⟨-, hfailure⟩
  · rw [heq] at hnone ⊢
    obtain ⟨q, content, hlocate, hentry⟩ := isFile_iff.mp hhidden.2
    have hplace : q = (prepared storage o).placeOf (o.classPath e.name) := (locate_eq_ok hlocate).1
    rw [placeOf_congr hmade.workingPlace] at hplace
    obtain ⟨p, hp, hpe⟩ := exists_right_of_forall₂ hplanned he
    obtain ⟨p', hp', -, hwritten⟩ := entry?_writeAll hnone hp
    obtain ⟨e', he', hpe'⟩ := exists_left_of_forall₂ hplanned hp'
    rw [placeOf_congr hmade.workingPlace, hpe.path] at hwritten
    rw [← hplace] at hwritten ⊢
    exact ⟨⟨content, hmade.file hentry⟩, e', he', p'.source,
      (renderEntity_eq horigin e').trans hpe'.source, hwritten⟩
  · exact absurd hnone hfailure

theorem writeSources_of_plan {storage : Tree} {o : Options} {entities : List Entity}
    {planned : List Planned} (hplan : plan storage o entities = .ok planned) :
    writeSources storage o entities =
      ((writePlanned storage o planned).storage, (writePlanned storage o planned).result) := by
  rw [writeSources, writing, hplan]

theorem failure_of_isOk {w : Writing} (h : w.result.isOk = true) : w.failure = none := by
  rw [Writing.result] at h
  cases hfailure : w.failure with
  | none => rfl
  | some f => rw [hfailure] at h; cases h

/-- A generation that may not replace anything keeps every file, however it ends, unless a file of
its classes is hidden. No file is hidden where the directory of the classes exists, and none whose
path has no step up. A generation that succeeds has written over every hidden file. -/
theorem keepsFiles_writeSources (storage : Tree) (o : Options) (entities : List Entity)
    (hkeep : o.overwrite = false) :
    ((∀ e ∈ entities, ¬ Hidden storage o e) →
        storage.KeepsFiles (writeSources storage o entities).1) ∧
      (∀ e, storage.exists? o.packageDir = true ∨
          storage.WellFormed ∧ ".." ∉ (o.classPath e.name).steps → ¬ Hidden storage o e) ∧
      ((writeSources storage o entities).2.isOk → ∀ e ∈ entities, Hidden storage o e →
        WrittenOver storage (writeSources storage o entities).1 o entities
          (storage.placeOf (o.classPath e.name))) := by
  have hplain : ∀ e, storage.exists? o.packageDir = true ∨
      storage.WellFormed ∧ ".." ∉ (o.classPath e.name).steps → ¬ Hidden storage o e := by
    rintro e (hexists | ⟨hwf, hup⟩)
    · exact not_hidden_of_exists hexists e
    · exact not_hidden_of_wellFormed hwf hup
  cases hplan : plan storage o entities with
  | error f =>
    rw [writeSources, writing, hplan]
    exact ⟨fun _ => KeepsFiles.refl storage, hplain, fun hok => absurd hok Bool.false_ne_true⟩
  | ok planned =>
    obtain ⟨-, origin, horigin, hall⟩ := plan_eq_ok.mp hplan
    obtain ⟨hplanned, -, -⟩ := planAll_eq_ok.mp hall
    rw [writeSources_of_plan hplan]
    dsimp only
    refine ⟨keepsFiles_writePlanned hkeep hplanned, hplain, fun hok e he hhidden => ?_⟩
    exact writtenOver_of_hidden horigin hplanned (failure_of_isOk hok) he hhidden

/-- A storage with a class `A`. -/
def furnished : Tree :=
  { entries := [(["src"], .directory), (["src", "main"], .directory),
      (["src", "main", "java"], .directory),
      (["src", "main", "java", "A.java"], .file "kept".toUTF8)] }

/-- Options whose paths go through a directory and up again. -/
def detour : Options := { outputDir := ⟨"gen/.."⟩ }

/-- The class is kept where its path is plain. Where the path goes through a directory that has yet
to be made, it is written over. -/
theorem keepsFiles_furnished :
    furnished.KeepsFiles (writeSources furnished {} [bareEntity "A"]).1 ∧
      WrittenOver furnished (writeSources furnished detour [bareEntity "A"]).1 detour
        [bareEntity "A"] (furnished.placeOf (detour.classPath "A")) := by
  constructor
  · have hexists : furnished.exists? (Options.packageDir {}) = true := by decide +kernel
    obtain ⟨hkeeps, hplain, -⟩ := keepsFiles_writeSources furnished {} [bareEntity "A"] rfl
    exact hkeeps fun e _ => hplain e (.inl hexists)
  · have hhidden : Hidden furnished detour (bareEntity "A") := by
      constructor <;> decide +kernel
    have hok : (writeSources furnished detour [bareEntity "A"]).2.isOk := by
      decide +kernel
    obtain ⟨-, -, hover⟩ := keepsFiles_writeSources furnished detour [bareEntity "A"] rfl
    exact hover hok (bareEntity "A") List.mem_cons_self hhidden

/-- A generation that may not replace anything can succeed and leave a file with other bytes. -/
theorem not_keepsFiles_writeSources :
    detour.overwrite = false ∧ (writeSources furnished detour [bareEntity "A"]).2.isOk ∧
      ¬ furnished.KeepsFiles (writeSources furnished detour [bareEntity "A"]).1 := by
  refine ⟨rfl, by decide +kernel, fun hkeeps => ?_⟩
  have hkept := hkeeps ["src", "main", "java", "A.java"] "kept".toUTF8 (by decide +kernel)
  revert hkept
  decide +kernel

end EntityForge.Generation
