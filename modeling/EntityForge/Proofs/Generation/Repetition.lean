import EntityForge.Proofs.Generation.Keeping

/-!
# Generations that are repeated

A plan is settled in a storage when the directory of its package is there and each of its files
holds its text. A plan that has been written is settled, and writing a settled plan changes nothing:
each file is put where it stands already. The plan of a generation in a style depends on what is
stored only for the files that it may not replace. So a generation that has succeeded succeeds once
more if it may replace its files, and is refused at its first file if it may not; either way it
leaves the storage as it is.

Class names are taken to have no slash, so that no file of the plan is written over by a later one.
-/

namespace EntityForge.Generation

open Model (Entity)
open Outcome
open Storage (Path Tree)
open Storage.Tree

/-! ### Settled plans -/

/-- The file of a plan is there with its text. -/
def Stands (t : Tree) (p : Planned) : Prop :=
  ∃ place, t.locate p.path = .ok (.named place, false) ∧
    t.entry? place = some (.file p.source.toUTF8)

/-- A plan for the classes of a directory is settled: there is nothing left to write. -/
structure Settled (t : Tree) (dir : Path) (planned : List Planned) : Prop where
  /-- The directory is there, or is the one that paths start from. -/
  directory : dir.components = [] ∨ t.exists? dir = true
  /-- All files are there. -/
  files : ∀ p ∈ planned, Stands t p

theorem Stands.exists? {t : Tree} {p : Planned} (h : Stands t p) : t.exists? p.path = true := by
  obtain ⟨place, hlocate, hentry⟩ := h
  exact exists?_of_locate hlocate hentry

/-- Writing a file that is there with its text changes nothing. -/
theorem Stands.writeText {t : Tree} {p : Planned} (h : Stands t p) :
    t.writeText p.path p.source = .ok t := by
  obtain ⟨place, hlocate, hentry⟩ := h
  obtain ⟨-, -, hnamed⟩ := locate_eq_ok hlocate
  refine writeText_eq_ok.mpr ⟨place, hlocate, by simp [hentry], ?_⟩
  exact (set_eq_self (hnamed place rfl).1 hentry).symm

theorem writeAll_of_stands {t : Tree} {planned : List Planned} (h : ∀ p ∈ planned, Stands t p) :
    (writeAll t planned).storage = t ∧ (writeAll t planned).failure = none := by
  induction planned with
  | nil => exact ⟨rfl, rfl⟩
  | cons p rest ih =>
    obtain ⟨hp, hrest⟩ := List.forall_mem_cons.mp h
    obtain ⟨hstorage, hfailure⟩ := writeAll_cons_of_ok hp.writeText rest
    rw [hstorage, hfailure]
    exact ih hrest

/-- Writing a settled plan changes nothing. -/
theorem Settled.writePlanned {t : Tree} {o : Options} {planned : List Planned}
    (h : Settled t o.packageDir planned) :
    (writePlanned t o planned).storage = t ∧ (writePlanned t o planned).failure = none := by
  rw [Generation.writePlanned]
  split_ifs with hlacks
  · -- only the empty path is missing still
    have hempty : o.packageDir.components = [] := h.directory.resolve_right fun hexists => by
      rw [lacksDirectory, hexists] at hlacks
      cases hlacks
    rw [makeDirectories_of_components t hempty]
    exact writeAll_of_stands h.files
  · exact writeAll_of_stands h.files

/-! ### Plans that have been written -/

/-- What a path leads to is still there once files have been written. -/
theorem Wrote.exists? {t t' : Tree} {done : List Planned} (h : Wrote t t' done) {path : Path}
    (hpath : t.exists? path = true) : t'.exists? path = true := by
  obtain ⟨target, slash, hlocate, hthere⟩ := exists?_iff.mp hpath
  refine exists?_iff.mpr ⟨target, slash, h.keeps.locate hlocate, fun q hq => ?_⟩
  rcases hthere q hq with hdir | ⟨hslash, content, hfile⟩
  · exact .inl (h.keeps.directory q hdir)
  · refine .inr ⟨hslash, ?_⟩
    by_cases hwritten : ∃ p ∈ done, q = t.placeOf p.path
    · obtain ⟨p, hp, rfl⟩ := hwritten
      exact ⟨_, h.entry p hp⟩
    · refine ⟨content, (h.others q fun p hp heq => hwritten ⟨p, hp, heq⟩).trans hfile⟩

/-- A plan that has been written is settled. -/
theorem settled_writePlanned {storage : Tree} {o : Options} {planned : List Planned}
    (hplaces : ∀ t : Tree, planned.Pairwise fun p q => t.placeOf q.path ≠ t.placeOf p.path)
    (h : (writePlanned storage o planned).failure = none) :
    Settled (writePlanned storage o planned).storage o.packageDir planned := by
  have hwritten : ∀ t : Tree, o.packageDir.components = [] ∨ t.exists? o.packageDir = true →
      (writeAll t planned).failure = none →
      Settled (writeAll t planned).storage o.packageDir planned := by
    intro t hdir hnone
    obtain ⟨done, rest, hsplit, -, hwrote, hend⟩ := writeAll_spec (hplaces t)
    obtain rfl : rest = [] := by
      rcases hend with ⟨-, hrest⟩ | ⟨p, later, cause, -, hfailure⟩
      · exact hrest
      · rw [hnone] at hfailure
        cases hfailure
    obtain rfl : planned = done := hsplit.trans (List.append_nil done)
    exact ⟨hdir.imp_right hwrote.exists?, fun p hp => ⟨_, hwrote.locate p hp, hwrote.entry p hp⟩⟩
  revert h
  rw [writePlanned]
  split_ifs with hlacks
  · cases hmake : storage.makeDirectories o.packageDir with
    | mk t result =>
      cases result with
      | error cause =>
        intro h
        cases h
      | ok => exact hwritten t (exists?_of_makeDirectories hmake)
  · refine hwritten storage (.inr ?_)
    simpa [lacksDirectory] using hlacks

/-! ### Generations -/

/-- A plan in a style that may replace its files is the same in every storage. -/
theorem plan_overwriting {storage : Tree} {o : Options} {entities : List Entity}
    {planned : List Planned} (hstyle : o.templateFile = none)
    (h : plan storage o entities = .ok planned) (t : Tree) :
    plan t { o with overwrite := true } entities = .ok planned := by
  obtain ⟨hvalid, origin, horigin, hall⟩ := plan_eq_ok.mp h
  obtain ⟨hplanned, hfree, hpaths⟩ := planAll_eq_ok.mp hall
  rw [origin_of_style hstyle] at horigin
  cases horigin
  refine plan_eq_ok.mpr ⟨hvalid, _, origin_of_style hstyle t, planAll_eq_ok.mpr ⟨?_, hfree, hpaths⟩⟩
  exact hplanned.imp fun e p hp => ⟨hp.fields, hp.path, fun _ => rfl, hp.source⟩

/-- A plan that may not replace the file of its first entity is refused there. -/
theorem plan_existing {t : Tree} {o : Options} {e : Entity} (hvalid : o.validate = .ok ())
    (hstyle : o.templateFile = none) (hkeep : o.overwrite = false)
    (hfields : fieldClash? [] e.fields = none) (hexists : t.exists? (o.classPath e.name) = true)
    (rest : List Entity) :
    plan t o (e :: rest) = .error (.refusal (existingMessage (o.classPath e.name))) := by
  have hone : planOne t o (.style o.style) [] e = _ := planOne_eq t o _ [] e
  simp only [hfields, List.any_nil, Bool.false_eq_true, if_false, hexists, hkeep, Bool.not_false,
    Bool.and_self, if_true] at hone
  rw [plan, hvalid, origin_of_style hstyle, ok_bind, ok_bind, planAll, hone]
  rfl

/-- A generation with a settled plan succeeds and changes nothing. -/
theorem writeSources_of_settled {t : Tree} {o : Options} {entities : List Entity}
    {planned : List Planned} (hplan : plan t o entities = .ok planned)
    (h : Settled t o.packageDir planned) :
    writeSources t o entities = (t, .ok (planned.map (·.path))) := by
  obtain ⟨hstorage, hfailure⟩ := h.writePlanned
  exact writeSources_eq_ok_iff_plan.mpr ⟨planned, hplan, hfailure, hstorage, rfl⟩

/-- A generation that has succeeded has settled its plan. -/
theorem exists_settled_of_writeSources {storage after : Tree} {o : Options}
    {entities : List Entity} {files : List Path}
    (h : writeSources storage o entities = (after, .ok files))
    (hnames : ∀ e ∈ entities, '/' ∉ e.name.toList) :
    ∃ planned, plan storage o entities = .ok planned ∧ Settled after o.packageDir planned ∧
      planned.map (·.path) = files := by
  obtain ⟨planned, hplan, hfailure, rfl, hfiles⟩ := writeSources_eq_ok_iff_plan.mp h
  obtain ⟨-, origin, -, hall⟩ := plan_eq_ok.mp hplan
  obtain ⟨hplanned, -, hpaths⟩ := planAll_eq_ok.mp hall
  have hplaces := fun t => pairwise_placeOf t hplanned hpaths hnames
  exact ⟨planned, hplan, settled_writePlanned hplaces hfailure, hfiles⟩

/-- A generation in a style that has succeeded leaves the storage as it is when it is repeated. It
succeeds with the same files if it may replace them, and is refused at its first file if it may
not. -/
theorem writeSources_repeated {storage after : Tree} {o : Options} {entities : List Entity}
    {files : List Path} (h : writeSources storage o entities = (after, .ok files))
    (hstyle : o.templateFile = none) (hnames : ∀ e ∈ entities, '/' ∉ e.name.toList) :
    writeSources after { o with overwrite := true } entities = (after, .ok files) ∧
      (writeSources after { o with overwrite := false } entities).1 = after ∧
      ∀ e rest, entities = e :: rest →
        (writeSources after { o with overwrite := false } entities).2 =
          .error (.refusal (existingMessage (o.classPath e.name))) := by
  obtain ⟨planned, hplan, hsettled, rfl⟩ := exists_settled_of_writeSources h hnames
  obtain ⟨hvalid, origin, -, hall⟩ := plan_eq_ok.mp hplan
  refine ⟨writeSources_of_settled (plan_overwriting hstyle hplan after) hsettled, ?_⟩
  cases (planAll_eq_ok.mp hall).1 with
  | nil =>
    have hnothing : plan after { o with overwrite := false } [] = .ok [] :=
      plan_eq_ok.mpr ⟨hvalid, _, origin_of_style hstyle after, rfl⟩
    rw [writeSources_of_settled hnothing hsettled]
    refine ⟨rfl, fun e rest heq => ?_⟩
    cases heq
  | @cons e p entities planned hp _ =>
    have hexists := (hsettled.files p List.mem_cons_self).exists?
    rw [hp.path] at hexists
    have hrefused := plan_existing (o := { o with overwrite := false }) hvalid hstyle rfl
      hp.fields hexists entities
    rw [writeSources, writing, hrefused]
    refine ⟨rfl, fun e' rest heq => ?_⟩
    cases heq
    rfl

/-- Options whose paths go through a directory that has yet to be made. -/
def roundabout : Options := { outputDir := ⟨"gen/../out"⟩, style := .jpa }

/-- A generation that has made all its directories leaves everything as it is when it is repeated,
and is refused where the class `B` is there. -/
theorem writeSources_roundabout :
    ∃ after files, writeSources furnished roundabout [bareEntity "B", bareEntity "A"] =
        (after, .ok files) ∧ files ≠ [] ∧
      writeSources after { roundabout with overwrite := true } [bareEntity "B", bareEntity "A"] =
        (after, .ok files) ∧
      writeSources after { roundabout with overwrite := false } [bareEntity "B", bareEntity "A"] =
        (after, .error (.refusal (existingMessage ⟨"gen/../out/src/main/java/B.java"⟩))) := by
  have hnames : ∀ e ∈ [bareEntity "B", bareEntity "A"], '/' ∉ e.name.toList := by decide
  have hpath : roundabout.classPath (bareEntity "B").name =
      ⟨"gen/../out/src/main/java/B.java"⟩ := by
    decide +kernel
  obtain ⟨after, hok⟩ : ∃ after, writeSources furnished roundabout
      [bareEntity "B", bareEntity "A"] = (after, .ok [⟨"gen/../out/src/main/java/B.java"⟩,
        ⟨"gen/../out/src/main/java/A.java"⟩]) := by
    refine ⟨_, writeSources_eq_ok.mpr ⟨rfl, ?_⟩⟩
    decide +kernel
  obtain ⟨hagain, hkept, hrefused⟩ := writeSources_repeated hok rfl hnames
  have hfirst := hrefused _ _ rfl
  rw [hpath] at hfirst
  exact ⟨_, _, hok, List.cons_ne_nil _ _, hagain, Prod.ext hkept hfirst⟩

end EntityForge.Generation
