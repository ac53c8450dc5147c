import EntityForge.Generation.Sources
import EntityForge.Proofs.Outcome

/-!
# Planned files

A plan has one file for each entity, in order, with the path and the text of its class as the
storage stands before anything is written. No two files of a plan have the same path. A plan that
fails fails for a reason of its own: no cause of the storage is behind it.
-/

namespace EntityForge.Generation

open Model (Entity Field)
open Outcome
open Storage (Path Tree)

/-- The text of the class of an entity under some options. -/
def renderEntity (storage : Tree) (o : Options) (e : Entity) : Except Failure String := do
  (← o.origin storage).render storage o.package e

theorem renderEntity_eq {storage : Tree} {o : Options} {origin : Origin}
    (h : o.origin storage = .ok origin) (e : Entity) :
    renderEntity storage o e = origin.render storage o.package e := by
  rw [renderEntity, h]
  rfl

/-- Without a template file the texts come from the style, whatever is stored. -/
theorem origin_of_style {o : Options} (h : o.templateFile = none) (storage : Tree) :
    o.origin storage = .ok (.style o.style) := by
  rw [Options.origin, h]
  rfl

/-! ### One file -/

/-- No field clashes just where no two fields have the same name and none has the name of one
before them. -/
theorem fieldClash?_eq_none {before fields : List Field} :
    fieldClash? before fields = none ↔
      (fields.map (·.name)).Nodup ∧ ∀ f ∈ fields, ∀ b ∈ before, b.name ≠ f.name := by
  induction fields generalizing before with
  | nil => simp [fieldClash?]
  | cons f rest ih =>
    rw [fieldClash?, List.map_cons, List.nodup_cons, List.forall_mem_cons]
    split
    · next first hfind =>
      have hname := List.find?_some hfind
      refine iff_of_false (Option.some_ne_none _) fun h => ?_
      exact h.2.1 first (List.mem_of_find?_eq_some hfind) (beq_iff_eq.mp hname)
    · next hfind =>
      have hhead : ∀ b ∈ before, b.name ≠ f.name := fun b hb hname =>
        List.find?_eq_none.mp hfind b hb (beq_iff_eq.mpr hname)
      rw [ih]
      simp only [List.forall_mem_cons, List.mem_map, not_exists, not_and]
      constructor
      · rintro ⟨hnodup, hfree⟩
        exact ⟨⟨fun g hg hname => (hfree g hg).1 hname.symm, hnodup⟩, hhead,
          fun g hg => (hfree g hg).2⟩
      · rintro ⟨⟨hnew, hnodup⟩, -, hfree⟩
        exact ⟨hnodup, fun g hg => ⟨fun hname => hnew g hg hname.symm, hfree g hg⟩⟩

/-- What the file of an entity is planned from. -/
structure PlannedFrom (storage : Tree) (o : Options) (origin : Origin) (e : Entity) (p : Planned) :
    Prop where
  /-- The columns do not clash. -/
  fields : fieldClash? [] e.fields = none
  /-- The path is that of the class. -/
  path : p.path = o.classPath e.name
  /-- Nothing that exists is replaced against the options. -/
  free : storage.exists? p.path = true → o.overwrite = true
  /-- The text is that of the class. -/
  source : origin.render storage o.package e = .ok p.source

/-- The checks of an entity, in order, and the text of its class last. -/
theorem planOne_eq (storage : Tree) (o : Options) (origin : Origin) (before : List Path)
    (e : Entity) :
    planOne storage o origin before e =
      match fieldClash? [] e.fields with
      | some (first, second) => .error (.refusal (fieldClashMessage e first second))
      | none =>
        if before.any (o.classPath e.name).same then .error (.refusal (classClashMessage e))
        else if storage.exists? (o.classPath e.name) && !o.overwrite then
          .error (.refusal (existingMessage (o.classPath e.name)))
        else
          ((origin.render storage o.package e).mapError (·.during s!"render entity {e.name}")).map
            fun source => ⟨o.classPath e.name, source⟩ := by
  unfold planOne
  cases fieldClash? [] e.fields with
  | some clash => rfl
  | none =>
    simp only
    by_cases hsame : before.any (o.classPath e.name).same = true
    · rw [if_pos hsame, if_pos hsame]
      rfl
    by_cases hexists : (storage.exists? (o.classPath e.name) && !o.overwrite) = true
    · rw [if_neg hsame, if_neg hsame, if_pos hexists, if_pos hexists]
      rfl
    · rw [if_neg hsame, if_neg hsame, if_neg hexists, if_neg hexists]
      cases origin.render storage o.package e with
      | ok source => rfl
      | error f => rfl

theorem planOne_eq_ok {storage : Tree} {o : Options} {origin : Origin} {before : List Path}
    {e : Entity} {p : Planned} :
    planOne storage o origin before e = .ok p ↔
      PlannedFrom storage o origin e p ∧ ∀ b ∈ before, p.path.same b = false := by
  rw [planOne_eq]
  constructor
  · intro h
    split at h
    · cases h
    · next hfields =>
      split_ifs at h with hsame hexists
      obtain ⟨source, hsource, rfl⟩ := map_eq_ok.mp h
      refine ⟨⟨hfields, rfl, fun hthere => ?_, mapError_eq_ok.mp hsource⟩, fun b hb => ?_⟩
      · simpa [hthere] using hexists
      · simp only [List.any_eq_true, not_exists, not_and, Bool.not_eq_true] at hsame
        exact hsame b hb
  · rintro ⟨h, hbefore⟩
    have hpath := h.path
    obtain ⟨path, source⟩ := p
    subst hpath
    have hsame : before.any (o.classPath e.name).same = false :=
      List.any_eq_false.mpr fun b hb => by simp [hbefore b hb]
    have hexists : (storage.exists? (o.classPath e.name) && !o.overwrite) = false := by
      cases hthere : storage.exists? (o.classPath e.name) with
      | false => rfl
      | true => simp [h.free hthere]
    simp only [h.fields, hsame, hexists, Bool.false_eq_true, if_false]
    rw [h.source]
    rfl

/-- A directory that cannot be made or a file that cannot be written is behind the failure. -/
def Failure.IsStorage (f : Failure) : Prop := ∃ cause, f.root = .storage cause

theorem not_isStorage_refusal (message : String) : ¬ (Failure.refusal message).IsStorage :=
  fun ⟨_, h⟩ => nomatch h

theorem not_isStorage_render {storage : Tree} {origin : Origin} {package : String} {e : Entity}
    {f : Failure} (h : origin.render storage package e = .error f) : ¬ f.IsStorage := by
  cases origin with
  | style s => cases h
  | file file =>
    obtain ⟨error, -, rfl⟩ := mapError_eq_error.mp h
    exact fun ⟨_, hroot⟩ => nomatch hroot

theorem not_isStorage_planOne {storage : Tree} {o : Options} {origin : Origin} {before : List Path}
    {e : Entity} {f : Failure} (h : planOne storage o origin before e = .error f) :
    ¬ f.IsStorage := by
  rw [planOne_eq] at h
  split at h
  · cases h
    exact not_isStorage_refusal _
  · split_ifs at h
    · cases h
      exact not_isStorage_refusal _
    · cases h
      exact not_isStorage_refusal _
    · cases hrender : origin.render storage o.package e with
      | ok source => rw [hrender] at h; cases h
      | error f' =>
        rw [hrender] at h
        cases h
        exact fun hstorage => not_isStorage_render hrender hstorage

/-! ### All files -/

/-- Planned files have the paths of the classes, in order. -/
theorem map_path_eq {storage : Tree} {o : Options} {origin : Origin} {entities : List Entity}
    {planned : List Planned} (h : List.Forall₂ (PlannedFrom storage o origin) entities planned) :
    planned.map (·.path) = entities.map fun e => o.classPath e.name := by
  induction h with
  | nil => rfl
  | cons hp _ ih => rw [List.map_cons, List.map_cons, hp.path, ih]

/-- The files of a plan are those of its entities, in order, and none has the path of one before
it. -/
theorem planAll_eq_ok {storage : Tree} {o : Options} {origin : Origin} {before : List Path}
    {entities : List Entity} {planned : List Planned} :
    planAll storage o origin before entities = .ok planned ↔
      List.Forall₂ (PlannedFrom storage o origin) entities planned ∧
        (∀ p ∈ planned, ∀ b ∈ before, p.path.same b = false) ∧
        planned.Pairwise fun p q => q.path.same p.path = false := by
  induction entities generalizing before planned with
  | nil =>
    rw [planAll]
    constructor
    · intro h
      cases h
      exact ⟨.nil, by simp, .nil⟩
    · rintro ⟨h, -⟩
      cases h
      rfl
  | cons e rest ih =>
    rw [planAll, bind_eq_ok]
    simp only [bind_eq_ok, planOne_eq_ok, ih]
    constructor
    · rintro ⟨p, ⟨hp, hbefore⟩, tail, ⟨htail, hfree, hpairs⟩, h⟩
      cases h
      refine ⟨.cons hp htail, ?_, List.pairwise_cons.mpr ⟨fun q hq => ?_, hpairs⟩⟩
      · intro q hq b hb
        rcases List.mem_cons.mp hq with rfl | hq
        · exact hbefore b hb
        · exact hfree q hq b (List.mem_cons_of_mem _ hb)
      · exact hfree q hq p.path List.mem_cons_self
    · rintro ⟨h, hfree, hpairs⟩
      cases h with
      | @cons _ p _ tail hp htail =>
        obtain ⟨hhead, hpairs⟩ := List.pairwise_cons.mp hpairs
        refine ⟨p, ⟨hp, hfree p List.mem_cons_self⟩, tail, ⟨htail, fun q hq b hb => ?_, hpairs⟩, rfl⟩
        rcases List.mem_cons.mp hb with rfl | hb
        · exact hhead q hq
        · exact hfree q (List.mem_cons_of_mem _ hq) b hb

/-- The files of entities behind others are planned behind the files of these. -/
theorem planAll_append (storage : Tree) (o : Options) (origin : Origin) (seen : List Path)
    (before after : List Entity) :
    planAll storage o origin seen (before ++ after) =
      planAll storage o origin seen before >>= fun planned =>
        (planAll storage o origin ((planned.map (·.path)).reverse ++ seen) after).map
          (planned ++ ·) := by
  induction before generalizing seen with
  | nil =>
    rw [List.nil_append, planAll.eq_1]
    show _ = (planAll storage o origin seen after).map fun planned => planned
    cases planAll storage o origin seen after <;> rfl
  | cons e before ih =>
    rw [List.cons_append, planAll, planAll]
    cases planOne storage o origin seen e with
    | error f => rfl
    | ok p =>
      simp only [ok_bind, ih]
      cases planAll storage o origin (p.path :: seen) before with
      | error f => rfl
      | ok planned =>
        have hseen : ((p :: planned).map (·.path)).reverse ++ seen =
            (planned.map (·.path)).reverse ++ p.path :: seen := by simp
        show _ = (planAll storage o origin _ after).map (p :: planned ++ ·)
        rw [hseen, ok_bind]
        cases planAll storage o origin ((planned.map (·.path)).reverse ++ p.path :: seen) after <;>
          rfl

theorem not_isStorage_planAll {storage : Tree} {o : Options} {origin : Origin} {before : List Path}
    {entities : List Entity} {f : Failure}
    (h : planAll storage o origin before entities = .error f) : ¬ f.IsStorage := by
  induction entities generalizing before with
  | nil => cases h
  | cons e rest ih =>
    rw [planAll] at h
    rcases bind_eq_error.mp h with h | ⟨p, -, h⟩
    · exact not_isStorage_planOne h
    · rcases bind_eq_error.mp h with h | ⟨tail, -, h⟩
      · exact ih h
      · cases h

/-! ### Plans -/

/-- A plan that succeeds has a valid package and one origin for the texts of all its files. -/
theorem plan_eq_ok {storage : Tree} {o : Options} {entities : List Entity}
    {planned : List Planned} :
    plan storage o entities = .ok planned ↔ o.validate = .ok () ∧
      ∃ origin, o.origin storage = .ok origin ∧
        planAll storage o origin [] entities = .ok planned := by
  unfold plan
  rw [bind_eq_ok]
  simp only [bind_eq_ok]
  exact ⟨fun ⟨_, hvalid, h⟩ => ⟨hvalid, h⟩, fun ⟨hvalid, h⟩ => ⟨(), hvalid, h⟩⟩

theorem not_isStorage_load {storage : Tree} {path : Path} {f : Failure}
    (h : TemplateFile.load storage path = .error f) : ¬ f.IsStorage := by
  unfold TemplateFile.load at h
  split at h
  · cases h
    exact not_isStorage_refusal _
  · simp only at h
    split at h
    · cases h
    · cases h
      exact fun ⟨_, hroot⟩ => nomatch hroot

theorem not_isStorage_origin {storage : Tree} {o : Options} {f : Failure}
    (h : o.origin storage = .error f) : ¬ f.IsStorage := by
  unfold Options.origin at h
  split at h
  · next path hfile =>
    cases hload : TemplateFile.load storage path with
    | ok file => rw [hload] at h; cases h
    | error f' =>
      rw [hload] at h
      cases h
      exact not_isStorage_load hload
  · cases h

/-- A plan that fails does not fail for a cause of the storage. -/
theorem not_isStorage_plan {storage : Tree} {o : Options} {entities : List Entity} {f : Failure}
    (h : plan storage o entities = .error f) : ¬ f.IsStorage := by
  unfold plan at h
  rcases bind_eq_error.mp h with h | ⟨_, -, h⟩
  · unfold Options.validate at h
    split at h
    · cases h
      exact not_isStorage_refusal _
    · cases h
  · rcases bind_eq_error.mp h with h | ⟨origin, -, h⟩
    · exact not_isStorage_origin h
    · exact not_isStorage_planAll h

end EntityForge.Generation
