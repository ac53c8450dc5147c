import EntityForge.Proofs.Storage.Directories

/-!
# Files that are kept

A file keeps its bytes as long as nothing is written to its place. Writing resolves its path anew,
so whether a file is in the way depends on the directories that are there when it is written: a path
that goes through a missing directory and up again leads nowhere until the directory is made.

Where everything stands in a directory and a path has no step up, the path finds a file whether or
not other directories are made first.
-/

namespace EntityForge.Storage.Tree

open Outcome

/-- The files of the first tree are in the second one with the same bytes. -/
def KeepsFiles (t t' : Tree) : Prop :=
  ∀ q content, t.entry? q = some (.file content) → t'.entry? q = some (.file content)

theorem KeepsFiles.refl (t : Tree) : t.KeepsFiles t := fun _ _ h => h

theorem KeepsFiles.trans {t t' t'' : Tree} (h : t.KeepsFiles t') (h' : t'.KeepsFiles t'') :
    t.KeepsFiles t'' := fun q content hq => h' q content (h q content hq)

/-- Directories that are made take the place of no file. -/
theorem MadeOn.keepsFiles {p : Path} {t t' : Tree} (h : MadeOn p t t') : t.KeepsFiles t' := by
  intro q content hq
  rcases h.entry q with hsame | ⟨hnone, -, -⟩
  · rw [hsame, hq]
  · rw [hnone] at hq
    cases hq

/-- No file comes with directories that are made. -/
theorem MadeOn.file {p : Path} {t t' : Tree} (h : MadeOn p t t') {q : Place} {content : ByteArray}
    (hq : t'.entry? q = some (.file content)) : t.entry? q = some (.file content) := by
  rcases h.entry q with hsame | ⟨-, hdir, -⟩
  · rw [← hsame, hq]
  · rw [hdir] at hq
    cases hq

/-- A file that is written adds no directory. -/
theorem keeps_of_set (t : Tree) (place : Place) (content : ByteArray) :
    Keeps (t.set place (.file content)) t := by
  refine ⟨rfl, fun q hq => ?_⟩
  by_cases hplace : q = place
  · by_cases hroot : place = []
    · rw [hplace, hroot]
      rfl
    · rw [hplace, entry?_set_self t _ hroot] at hq
      cases hq
  · rwa [entry?_set_of_ne t _ hplace] at hq

/-! ### Finding files -/

/-- A path finds a file if it leads to one and no slash ends it. -/
theorem find_eq_file {t : Tree} {p : Path} {content : ByteArray} :
    t.find p = .ok (.file content) ↔
      ∃ q, t.locate p = .ok (.named q, false) ∧ t.entry? q = some (.file content) := by
  constructor
  · intro hfind
    rw [find] at hfind
    obtain ⟨⟨target, slash⟩, hlocate, hfind⟩ := bind_eq_ok.mp hfind
    cases target with
    | directory => cases hfind
    | named q =>
      cases hentry : t.entry? q with
      | none => simp only [hentry] at hfind; cases hfind
      | some e =>
        cases e with
        | directory => simp only [hentry] at hfind; cases hfind
        | file content' =>
          cases slash with
          | true => simp only [hentry] at hfind; cases hfind
          | false =>
            simp only [hentry] at hfind
            cases hfind
            exact ⟨q, hlocate, hentry⟩
  · rintro ⟨q, hlocate, hentry⟩
    exact find_of_locate hlocate hentry

theorem isFile_iff {t : Tree} {p : Path} :
    t.isFile p = true ↔ ∃ q content, t.locate p = .ok (.named q, false) ∧
      t.entry? q = some (.file content) := by
  have hfile : t.isFile p = true ↔ ∃ content, t.find p = .ok (.file content) := by
    rw [isFile]
    split
    · next content hfind => exact iff_of_true rfl ⟨content, hfind⟩
    · next hnone => exact iff_of_false Bool.false_ne_true fun ⟨content, hfind⟩ => hnone _ hfind
  simp only [hfile, find_eq_file]
  exact exists_comm

/-- The bytes of a file are those that stand where the path leads. -/
theorem readBytes_eq_ok {t : Tree} {p : Path} {content : ByteArray} :
    t.readBytes p = .ok content ↔
      ∃ q, t.locate p = .ok (.named q, false) ∧ t.entry? q = some (.file content) := by
  rw [← find_eq_file, readBytes, bind_eq_ok]
  constructor
  · rintro ⟨e, hfind, he⟩
    cases e with
    | directory => cases he
    | file content' =>
      cases he
      exact hfind
  · intro hfind
    exact ⟨_, hfind, rfl⟩

/-- A text that is written is there. -/
theorem readBytes_of_writeText {t t' : Tree} {p : Path} {text : String}
    (h : t.writeText p text = .ok t') : t'.readBytes p = .ok text.toUTF8 := by
  obtain ⟨q, hlocate, hentry, rfl⟩ := writeText_eq_ok.mp h
  obtain ⟨-, -, hnamed⟩ := locate_eq_ok hlocate
  exact readBytes_eq_ok.mpr ⟨q, (keeps_set _ hentry).locate hlocate,
    entry?_set_self t _ (hnamed q rfl).1⟩

/-- Writing a text keeps the directories. -/
theorem keeps_of_writeText {t t' : Tree} {p : Path} {text : String}
    (h : t.writeText p text = .ok t') : t.Keeps t' := by
  obtain ⟨q, -, hentry, rfl⟩ := writeText_eq_ok.mp h
  exact keeps_set _ hentry

/-- A file reads as before if its place is as it was and the directories are kept. -/
theorem Keeps.readBytes {t t' : Tree} (h : t.Keeps t') {p : Path} {content : ByteArray}
    (hread : t.readBytes p = .ok content)
    (hentry : t'.entry? (t.placeOf p) = t.entry? (t.placeOf p)) :
    t'.readBytes p = .ok content := by
  obtain ⟨q, hlocate, hq⟩ := readBytes_eq_ok.mp hread
  obtain ⟨hplace, -⟩ := locate_eq_ok hlocate
  obtain rfl : q = t.placeOf p := hplace
  exact readBytes_eq_ok.mpr ⟨_, h.locate hlocate, hentry.trans hq⟩

theorem exists?_of_locate {t : Tree} {p : Path} {q : Place} {e : Entry}
    (hlocate : t.locate p = .ok (.named q, false)) (hentry : t.entry? q = some e) :
    t.exists? p = true := by
  rw [exists?, find_of_locate hlocate hentry]
  rfl

/-! ### Paths without a step up -/

/-- Everything but the root stands in a directory. -/
def WellFormed (t : Tree) : Prop :=
  ∀ q name, t.entry? (q ++ [name]) ≠ none → t.entry? q = some .directory

theorem WellFormed.directory_of_prefix {t : Tree} (h : t.WellFormed) {q r : Place} (hq : q <+: r)
    (hr : t.entry? r = some .directory) : t.entry? q = some .directory := by
  obtain ⟨names, rfl⟩ := hq
  induction names using List.reverseRecOn with
  | nil => rwa [List.append_nil] at hr
  | append_singleton names name ih =>
    refine ih (h _ name ?_)
    rw [List.append_assoc, hr]
    exact Option.some_ne_none _

theorem prefix_walk {place : Place} {steps : List String} (h : ".." ∉ steps) :
    place <+: walk place steps := by
  induction steps generalizing place with
  | nil => exact List.prefix_refl place
  | cons step rest ih =>
    obtain ⟨hstep, hrest⟩ := not_or.mp (mt List.mem_cons.mpr h)
    refine List.IsPrefix.trans ?_ (ih hrest)
    rw [stepPlace]
    split_ifs with hdot hup
    · exact List.prefix_refl place
    · exact absurd hup.symm hstep
    · exact List.prefix_append place [step]

/-- Steps that go down to a directory can be followed wherever that directory is. -/
theorem descend_of_wellFormed {t t' : Tree} (hwf : t.WellFormed) {place q : Place}
    {steps : List String} (hup : ".." ∉ steps) (h : t'.descend place steps = .ok q)
    (hq : t.entry? q = some .directory) : t.descend place steps = .ok q := by
  induction steps generalizing place with
  | nil => exact h
  | cons step rest ih =>
    obtain ⟨hstep, hrest⟩ := not_or.mp (mt List.mem_cons.mpr hup)
    obtain ⟨next, hnext, h⟩ := descend_eq_ok_iff.mp h
    obtain ⟨hplace, hfollow⟩ := stepInto_eq_ok.mp hnext
    refine descend_eq_ok_iff.mpr ⟨next, stepInto_eq_ok.mpr ⟨hplace, ?_⟩, ih hrest h⟩
    by_cases hdot : step = "."
    · exact .inl hdot
    · obtain ⟨hfits, -⟩ := (hfollow.resolve_left hdot).resolve_left (Ne.symm hstep)
      have hnext : next = place ++ [step] := by
        rw [hplace, stepPlace, if_neg hdot, if_neg (Ne.symm hstep)]
      refine .inr (.inr ⟨hfits, hwf.directory_of_prefix ?_ hq⟩)
      rw [← hnext, eq_walk_of_descend h]
      exact prefix_walk hrest

/-- A path without a step up that leads to something is found in every tree that has it, even if it
has fewer directories. -/
theorem locate_of_wellFormed {t t' : Tree} (hwf : t.WellFormed)
    (hwork : t'.workingPlace = t.workingPlace) {p : Path} (hup : ".." ∉ p.steps) {q : Place}
    {slash : Bool} (h : t'.locate p = .ok (.named q, slash)) (hq : t.entry? q ≠ none) :
    t.locate p = .ok (.named q, slash) := by
  rw [locate_eq] at h ⊢
  rw [start_congr hwork rfl] at h
  split_ifs at h ⊢
  cases hlast : p.steps.getLast? with
  | none => simp only [hlast] at h; cases h
  | some last =>
    obtain ⟨before, hbefore⟩ := List.getLast?_eq_some_iff.mp hlast
    simp only [hbefore, List.getLast?_concat, List.dropLast_concat] at h ⊢
    obtain ⟨dir, hdir, h⟩ := bind_eq_ok.mp h
    refine bind_eq_ok.mpr ⟨dir, ?_, h⟩
    have hname : q = dir ++ [last] := by
      split_ifs at h
      · cases h
      · cases h
      · cases h
        rfl
    refine descend_of_wellFormed hwf (fun hmem => hup ?_) hdir (hwf dir last (hname ▸ hq))
    rw [hbefore]
    exact List.mem_append_left [last] hmem

end EntityForge.Storage.Tree
