import EntityForge.Proofs.Storage.Resolution

/-!
# Making directories

Making a directory with those above it adds directories and nothing else, and every one that is
added is reached by the first steps of the path. This holds also where the making stops half way.
Where it does not stop, the directory is there.
-/

namespace EntityForge.Storage.Tree

open Outcome

/-- The second tree is the first with directories added on a path. -/
structure MadeOn (p : Path) (t t' : Tree) : Prop where
  /-- Relative paths start from the same place. -/
  workingPlace : t'.workingPlace = t.workingPlace
  /-- Every place is as it was or has got a directory and is on the path. -/
  entry : ∀ q, t'.entry? q = t.entry? q ∨
    t.entry? q = none ∧ t'.entry? q = some .directory ∧ t.OnPath p q

theorem MadeOn.refl (p : Path) (t : Tree) : MadeOn p t t := ⟨rfl, fun _ => .inl rfl⟩

theorem MadeOn.trans {p : Path} {t t' t'' : Tree} (h : MadeOn p t t') (h' : MadeOn p t' t'') :
    MadeOn p t t'' := by
  refine ⟨h'.workingPlace.trans h.workingPlace, fun q => ?_⟩
  rcases h'.entry q with hq' | ⟨hnone, hdir, hon⟩
  · rw [hq']
    exact h.entry q
  · rcases h.entry q with hq | ⟨-, hdir', -⟩
    · exact .inr ⟨hq ▸ hnone, hdir, (onPath_congr h.workingPlace).mp hon⟩
    · rw [hdir'] at hnone
      cases hnone

theorem MadeOn.keeps {p : Path} {t t' : Tree} (h : MadeOn p t t') : t.Keeps t' := by
  refine ⟨h.workingPlace, fun q hq => ?_⟩
  rcases h.entry q with hsame | ⟨-, hdir, -⟩
  · rw [hsame, hq]
  · exact hdir

/-- A directory made on a path above another one is on that path. -/
theorem madeOn_of_makeDirectory {a p : Path} {t t' : Tree} (ha : a.Above p)
    (h : t.makeDirectory a = .ok t') : MadeOn p t t' := by
  obtain ⟨place, slash, hlocate, hnone, rfl⟩ := makeDirectory_eq_ok.mp h
  obtain ⟨hplace, -, hnamed⟩ := locate_eq_ok hlocate
  obtain ⟨hroot, hsteps⟩ := hnamed place rfl
  refine ⟨rfl, fun q => ?_⟩
  by_cases hq : q = place
  · subst hq
    refine .inr ⟨hnone, entry?_set_self t _ hroot, ?_⟩
    rw [show q = t.placeOf a from hplace]
    exact onPath_of_above ha hsteps
  · exact .inl (entry?_set_of_ne t _ hq)

/-- Whether or not the making stops half way, it only adds directories on the path. -/
theorem madeOn_makeEach {p : Path} {paths : List Path} {t : Tree} (h : ∀ a ∈ paths, a.Above p) :
    MadeOn p t (t.makeEach paths).1 := by
  induction paths generalizing t with
  | nil => exact MadeOn.refl p t
  | cons a rest ih =>
    have hrest : ∀ b ∈ rest, b.Above p := fun b hb => h b (List.mem_cons_of_mem a hb)
    simp only [makeEach]
    split
    · next t' hmade =>
      exact (madeOn_of_makeDirectory (h a List.mem_cons_self) hmade).trans (ih hrest)
    · split_ifs
      · exact ih hrest
      · exact MadeOn.refl p t

theorem mem_of_missingDirectories {t : Tree} {missing above paths : List Path}
    (h : t.missingDirectories missing above = .ok paths) : ∀ a ∈ paths, a ∈ missing ∨ a ∈ above := by
  induction above generalizing missing with
  | nil =>
    cases h
    exact fun a ha => .inl ha
  | cons p above ih =>
    simp only [missingDirectories] at h
    split_ifs at h
    · cases h
      exact fun a ha => .inl ha
    · split at h
      · cases h
        intro a ha
        rcases List.mem_cons.mp ha with rfl | ha
        · exact .inr List.mem_cons_self
        · exact .inl ha
      · intro a ha
        rcases ih h a ha with ha | ha
        · rcases List.mem_cons.mp ha with rfl | ha
          · exact .inr List.mem_cons_self
          · exact .inl ha
        · exact .inr (List.mem_cons_of_mem p ha)
      · split_ifs at h
        cases h
        exact fun a ha => .inl ha

/-- Making a directory with those above it adds directories on the path and nothing else, whether it
succeeds or not. -/
theorem madeOn_makeDirectories (t : Tree) (p : Path) : MadeOn p t (t.makeDirectories p).1 := by
  unfold makeDirectories
  split
  · exact MadeOn.refl p t
  · next missing hmissing =>
    refine madeOn_makeEach fun a ha => Path.above_of_mem_ancestors ?_
    exact (mem_of_missingDirectories hmissing a ha).resolve_left List.not_mem_nil

/-! ### Directories that have been made -/

/-- Something stands at the end of a path that leads to a directory, or to a file without a slash
behind it. -/
theorem exists?_iff {t : Tree} {p : Path} :
    t.exists? p = true ↔ ∃ target slash, t.locate p = .ok (target, slash) ∧
      ∀ q, target = .named q → t.entry? q = some .directory ∨
        slash = false ∧ ∃ content, t.entry? q = some (.file content) := by
  rw [exists?, find]
  cases t.locate p with
  | error cause => exact iff_of_false Bool.false_ne_true (by simp)
  | ok located =>
    obtain ⟨target, slash⟩ := located
    rw [ok_bind]
    cases target with
    | directory place => exact iff_of_true rfl ⟨_, _, rfl, by simp⟩
    | named place =>
      simp only
      cases hentry : t.entry? place with
      | none =>
        refine iff_of_false Bool.false_ne_true ?_
        rintro ⟨_, _, heq, h⟩
        cases heq
        rcases h place rfl with h | ⟨-, _, h⟩ <;> simp [hentry] at h
      | some e =>
        cases e with
        | directory => exact iff_of_true rfl ⟨_, _, rfl, by simp [hentry]⟩
        | file content =>
          cases slash with
          | true =>
            refine iff_of_false Bool.false_ne_true ?_
            rintro ⟨_, _, heq, h⟩
            cases heq
            simpa [hentry] using h place rfl
          | false => exact iff_of_true rfl ⟨_, _, rfl, by simp [hentry]⟩

theorem exists?_of_isDirectory {t : Tree} {p : Path} (h : t.isDirectory p = true) :
    t.exists? p = true := by
  rw [isDirectory] at h
  rw [exists?]
  split at h
  · next hfind => rw [hfind]; rfl
  · cases h

/-- A directory is there once it has been made. -/
theorem exists?_of_makeDirectory {t t' : Tree} {p : Path} (h : t.makeDirectory p = .ok t') :
    t'.exists? p = true := by
  obtain ⟨q, slash, hlocate, hnone, rfl⟩ := makeDirectory_eq_ok.mp h
  obtain ⟨-, -, hnamed⟩ := locate_eq_ok hlocate
  have hkeeps : t.Keeps (t.set q .directory) := keeps_set .directory (by simp [hnone])
  refine exists?_iff.mpr ⟨_, _, hkeeps.locate hlocate, fun place hplace => .inl ?_⟩
  cases hplace
  exact entry?_set_self t _ (hnamed q rfl).1

/-- The last of some directories is there once all have been made. -/
theorem exists?_of_makeEach {t t' : Tree} {paths : List Path} {p : Path}
    (h : t.makeEach paths = (t', .ok ())) (hp : paths.getLast? = some p) :
    t'.exists? p = true := by
  induction paths generalizing t with
  | nil => cases hp
  | cons a rest ih =>
    rw [makeEach] at h
    cases rest with
    | nil =>
      obtain rfl : a = p := Option.some.inj hp
      split at h
      · next t₁ hmade =>
        obtain ⟨rfl, -⟩ := Prod.mk.inj h
        exact exists?_of_makeDirectory hmade
      · split_ifs at h with hthere
        · obtain ⟨rfl, -⟩ := Prod.mk.inj h
          exact exists?_of_isDirectory hthere.2
        · cases h
    | cons b rest =>
      rw [List.getLast?_cons_cons] at hp
      split at h
      · exact ih h hp
      · split_ifs at h
        · exact ih h hp
        · cases h

theorem getLast?_missingDirectories {t : Tree} {missing above paths : List Path} {p : Path}
    (h : t.missingDirectories missing above = .ok paths) (hp : missing.getLast? = some p) :
    paths.getLast? = some p := by
  have hcons : ∀ a, (a :: missing).getLast? = some p := fun a => by
    rw [List.getLast?_cons, hp]
    rfl
  induction above generalizing missing with
  | nil =>
    cases h
    exact hp
  | cons a above ih =>
    rw [missingDirectories] at h
    split_ifs at h
    · cases h
      exact hp
    · split at h
      · cases h
        exact hcons a
      · refine ih h (hcons a) fun b => ?_
        rw [List.getLast?_cons, hcons a]
        rfl
      · split_ifs at h
        cases h
        exact hp

theorem ancestors_eq (p : Path) : ∃ above, p.ancestors = p :: above := ⟨_, rfl⟩

theorem missingDirectories_ancestors {t : Tree} {missing : List Path} {p : Path}
    (hempty : p.components ≠ []) (h : t.missingDirectories [] p.ancestors = .ok missing) :
    missing.getLast? = some p ∨ missing = [] ∧ t.isDirectory p = true := by
  obtain ⟨above, habove⟩ := ancestors_eq p
  rw [habove, missingDirectories, if_neg hempty] at h
  split at h
  · cases h
    exact .inl rfl
  · exact .inl (getLast?_missingDirectories h rfl)
  · split_ifs at h with hthere
    cases h
    exact .inr ⟨rfl, hthere.2⟩

/-- A directory that has been made with those above it is there, unless the path is empty. -/
theorem exists?_of_makeDirectories {t t' : Tree} {p : Path}
    (h : t.makeDirectories p = (t', .ok ())) : p.components = [] ∨ t'.exists? p = true := by
  refine or_iff_not_imp_left.mpr fun hempty => ?_
  rw [makeDirectories] at h
  split at h
  · cases h
  · next missing hmissing =>
    rcases missingDirectories_ancestors hempty hmissing with hlast | ⟨rfl, hthere⟩
    · exact exists?_of_makeEach h hlast
    · cases h
      exact exists?_of_isDirectory hthere

/-- There is nothing to make for the empty path. -/
theorem makeDirectories_of_components (t : Tree) {p : Path} (h : p.components = []) :
    t.makeDirectories p = (t, .ok ()) := by
  obtain ⟨above, habove⟩ := ancestors_eq p
  rw [makeDirectories, habove, missingDirectories, if_pos h]
  rfl

end EntityForge.Storage.Tree
