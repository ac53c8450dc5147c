import EntityForge.Proofs.Outcome
import EntityForge.Proofs.Storage.Steps
import EntityForge.Storage.Tree

/-!
# Where a path leads

Every directory that is stored stands where its name says, so a path leads where its steps lead when
they are followed without looking at what is stored: a name goes down, two dots go up. What is
stored decides only whether the path can be followed. Two trees with the same directories therefore
resolve the paths that can be followed in the same way, and storing a file changes none of them.
-/

namespace EntityForge.Storage

open Outcome

/-- The place that one step leads to, whatever is stored. -/
def stepPlace (place : Place) (step : String) : Place :=
  if step = "." then place else if step = ".." then place.dropLast else place ++ [step]

/-- The place that steps lead to, whatever is stored. -/
def walk (place : Place) (steps : List String) : Place := steps.foldl stepPlace place

theorem walk_append (place : Place) (steps steps' : List String) :
    walk place (steps ++ steps') = walk (walk place steps) steps' :=
  List.foldl_append

/-- Names lead down, whatever is stored. -/
theorem walk_names {names : List String} (h : ∀ name ∈ names, name ≠ "." ∧ name ≠ "..")
    (place : Place) : walk place names = place ++ names := by
  induction names generalizing place with
  | nil => exact (List.append_nil place).symm
  | cons name rest ih =>
    obtain ⟨⟨hdot, hup⟩, hrest⟩ := List.forall_mem_cons.mp h
    have hstep : stepPlace place name = place ++ [name] := by
      rw [stepPlace, if_neg hdot, if_neg hup]
    have hwalk : walk place (name :: rest) = walk (stepPlace place name) rest := rfl
    rw [hwalk, hstep, ih hrest, List.append_assoc, List.singleton_append]

namespace Tree

/-! ### Entries -/

theorem lookup_setEntry (place q : Place) (e : Entry) (entries : List (Place × Entry)) :
    (setEntry place e entries).lookup q =
      if q = place then some e else entries.lookup q := by
  induction entries with
  | nil => by_cases h : q = place <;> simp [setEntry, h]
  | cons head rest ih =>
    obtain ⟨p, old⟩ := head
    simp only [setEntry]
    split_ifs with hp hq hq
    · simp [hq]
    · have hne : (q == p) = false := by simpa [hp] using hq
      have hne' : (q == place) = false := by simpa using hq
      simp [List.lookup_cons, hne, hne']
    · have hne : (q == p) = false := by simpa [hq] using Ne.symm hp
      rw [List.lookup_cons, hne, ih, if_pos hq]
    · rw [List.lookup_cons, List.lookup_cons, ih, if_neg hq]

theorem entry?_of_ne_nil (t : Tree) {q : Place} (h : q ≠ []) : t.entry? q = t.entries.lookup q := by
  cases q with
  | nil => exact absurd rfl h
  | cons => rfl

theorem entry?_set_self (t : Tree) {place : Place} (e : Entry) (h : place ≠ []) :
    Tree.entry? (t.set place e) place = some e := by
  rw [entry?_of_ne_nil _ h, set, lookup_setEntry, if_pos rfl]

theorem entry?_set_of_ne (t : Tree) {place q : Place} (e : Entry) (h : q ≠ place) :
    Tree.entry? (t.set place e) q = t.entry? q := by
  cases q with
  | nil => rfl
  | cons => rw [entry?_of_ne_nil _ (by simp), entry?_of_ne_nil _ (by simp), set,
      lookup_setEntry, if_neg h]

theorem setEntry_eq_self {place : Place} {e : Entry} {entries : List (Place × Entry)}
    (h : entries.lookup place = some e) : setEntry place e entries = entries := by
  induction entries with
  | nil => cases h
  | cons head rest ih =>
    obtain ⟨p, old⟩ := head
    rw [setEntry]
    split_ifs with hp
    · rw [List.lookup_cons, hp, beq_self_eq_true] at h
      rw [hp, Option.some.inj h]
    · have hne : (place == p) = false := beq_eq_false_iff_ne.mpr (Ne.symm hp)
      rw [List.lookup_cons, hne] at h
      rw [ih h]

/-- Putting what stands at a place there once more changes nothing. -/
theorem set_eq_self {t : Tree} {place : Place} {e : Entry} (hroot : place ≠ [])
    (h : t.entry? place = some e) : t.set place e = t := by
  rw [entry?_of_ne_nil t hroot] at h
  rw [set, setEntry_eq_self h]

/-! ### Following steps -/

/-- The place that a path starts from. -/
def start (t : Tree) (p : Path) : Place := if p.isAbsolute then [] else t.workingPlace

/-- The place that a path leads to if it can be followed. -/
def placeOf (t : Tree) (p : Path) : Place := walk (t.start p) p.steps

/-- A place on a path: the first steps of the path lead there. -/
def OnPath (t : Tree) (p : Path) (q : Place) : Prop :=
  ∃ steps, steps <+: p.steps ∧ q = walk (t.start p) steps

theorem start_congr {t t' : Tree} {p p' : Path} (ht : t'.workingPlace = t.workingPlace)
    (hp : p'.isAbsolute = p.isAbsolute) : t'.start p' = t.start p := by
  simp [start, ht, hp]

theorem placeOf_congr {t t' : Tree} (ht : t'.workingPlace = t.workingPlace) (p : Path) :
    t'.placeOf p = t.placeOf p := by
  rw [placeOf, placeOf, start_congr ht rfl]

theorem onPath_congr {t t' : Tree} (ht : t'.workingPlace = t.workingPlace) {p : Path} {q : Place} :
    t'.OnPath p q ↔ t.OnPath p q := by
  simp only [OnPath, start_congr ht (rfl : p.isAbsolute = p.isAbsolute)]

theorem onPath_of_above {t : Tree} {a p : Path} (h : a.Above p) (hne : a.steps ≠ []) :
    t.OnPath p (t.placeOf a) :=
  ⟨a.steps, h.steps, by rw [placeOf, start_congr rfl (h.start hne)]⟩

/-- Behind a path come the steps of a relative one. -/
theorem placeOf_join (t : Tree) {p q : Path} (h : q.isAbsolute = false) :
    t.placeOf (p.join q) = walk (t.placeOf p) q.steps := by
  rw [placeOf, placeOf, Path.steps_join h, walk_append, start_congr rfl (Path.isAbsolute_join h)]

theorem stepInto_eq_ok {t : Tree} {place q : Place} {step : String} :
    t.stepInto place step = .ok q ↔ q = stepPlace place step ∧
      (step = "." ∨ step = ".." ∨ nameFits step ∧ t.entry? (place ++ [step]) = some .directory) := by
  unfold stepInto stepPlace
  split_ifs with hdot hup hfits
  · simp only [Except.ok.injEq, hdot, true_or, and_true]
    exact eq_comm
  · simp only [Except.ok.injEq, hup, true_or, or_true, and_true]
    exact eq_comm
  · cases hentry : t.entry? (place ++ [step]) with
    | none => simp [hdot, hup]
    | some e =>
      cases e with
      | file content => simp [hdot, hup]
      | directory =>
        simp only [Except.ok.injEq, hdot, hup, hfits, false_or, and_true]
        exact eq_comm
  · simp [hdot, hup, hfits]

theorem descend_eq_ok_iff {t : Tree} {place q : Place} {step : String} {rest : List String} :
    t.descend place (step :: rest) = .ok q ↔
      ∃ next, t.stepInto place step = .ok next ∧ t.descend next rest = .ok q := by
  rw [descend, bind_eq_ok]

theorem eq_walk_of_descend {t : Tree} {place q : Place} {steps : List String}
    (h : t.descend place steps = .ok q) : q = walk place steps := by
  induction steps generalizing place with
  | nil => exact (Except.ok.inj h).symm
  | cons step rest ih =>
    obtain ⟨next, hnext, hrest⟩ := descend_eq_ok_iff.mp h
    rw [ih hrest, (stepInto_eq_ok.mp hnext).1]
    rfl

/-! ### Locating -/

/-- The place of a target. -/
def Target.place : Target → Place
  | directory q => q
  | named q => q

/-- Locating follows all steps of a path but the last, from the place that the path starts from. -/
theorem locate_eq (t : Tree) (p : Path) :
    t.locate p =
      if p.text = "" then .error .notFound
      else if p.text.toList.contains '\x00' then .error .nulCharacter
      else if 4096 ≤ p.text.utf8ByteSize then .error .nameTooLong
      else (match p.steps.getLast? with
        | none => .ok (.directory (t.start p), p.text.toList.getLast? == some '/')
        | some last => do
          let place ← t.descend (t.start p) p.steps.dropLast
          if last = "." then return (.directory place, p.text.toList.getLast? == some '/')
          else if last = ".." then
            return (.directory place.dropLast, p.text.toList.getLast? == some '/')
          else if nameFits last then
            return (.named (place ++ [last]), p.text.toList.getLast? == some '/')
          else throw .nameTooLong) := rfl

/-- A path that can be located is located where its steps lead. A name is never the root. -/
theorem locate_eq_ok {t : Tree} {p : Path} {target : Target} {slash : Bool}
    (h : t.locate p = .ok (target, slash)) :
    target.place = t.placeOf p ∧ slash = (p.text.toList.getLast? == some '/') ∧
      ∀ q, target = .named q → q ≠ [] ∧ p.steps ≠ [] := by
  rw [locate_eq] at h
  split_ifs at h
  cases hlast : p.steps.getLast? with
  | none =>
    have hsteps : p.steps = [] := List.getLast?_eq_none_iff.mp hlast
    simp only [hlast, Except.ok.injEq, Prod.mk.injEq] at h
    obtain ⟨rfl, rfl⟩ := h
    exact ⟨by rw [placeOf, hsteps]; rfl, rfl, fun q hq => by cases hq⟩
  | some last =>
    obtain ⟨before, hbefore⟩ := List.getLast?_eq_some_iff.mp hlast
    simp only [hbefore, List.getLast?_concat, List.dropLast_concat] at h
    obtain ⟨dir, hdir, h⟩ := bind_eq_ok.mp h
    have hplace : t.placeOf p = stepPlace dir last := by
      rw [placeOf, hbefore, walk_append, ← eq_walk_of_descend hdir]
      rfl
    have hne : p.steps ≠ [] := by simp [hbefore]
    unfold stepPlace at hplace
    split_ifs at h hplace
    · cases h
      exact ⟨hplace.symm, rfl, fun q hq => nomatch hq⟩
    · cases h
      exact ⟨hplace.symm, rfl, fun q hq => nomatch hq⟩
    · cases h
      refine ⟨hplace.symm, rfl, fun q hq => ⟨?_, hne⟩⟩
      cases hq
      simp

/-- The directories of one tree are directories of another one as well. -/
structure Keeps (t t' : Tree) : Prop where
  /-- Relative paths start from the same place. -/
  workingPlace : t'.workingPlace = t.workingPlace
  /-- Directories are kept. -/
  directory : ∀ q, t.entry? q = some .directory → t'.entry? q = some .directory

theorem Keeps.refl (t : Tree) : t.Keeps t := ⟨rfl, fun _ h => h⟩

theorem Keeps.trans {t t' t'' : Tree} (h : t.Keeps t') (h' : t'.Keeps t'') : t.Keeps t'' :=
  ⟨h'.workingPlace.trans h.workingPlace, fun q hq => h'.directory q (h.directory q hq)⟩

/-- Putting something where no directory stands keeps the directories. -/
theorem keeps_set {t : Tree} {place : Place} (e : Entry) (h : t.entry? place ≠ some .directory) :
    t.Keeps (t.set place e) := by
  refine ⟨rfl, fun q hq => ?_⟩
  have hne : q ≠ place := fun heq => h (heq ▸ hq)
  rw [entry?_set_of_ne t e hne, hq]

theorem Keeps.descend {t t' : Tree} (h : t.Keeps t') {place q : Place} {steps : List String}
    (hd : t.descend place steps = .ok q) : t'.descend place steps = .ok q := by
  induction steps generalizing place with
  | nil => exact hd
  | cons step rest ih =>
    obtain ⟨next, hnext, hrest⟩ := descend_eq_ok_iff.mp hd
    obtain ⟨hplace, hstep⟩ := stepInto_eq_ok.mp hnext
    refine descend_eq_ok_iff.mpr ⟨next, stepInto_eq_ok.mpr ⟨hplace, ?_⟩, ih hrest⟩
    exact hstep.imp_right fun hstep => hstep.imp_right fun hstep =>
      ⟨hstep.1, h.directory _ hstep.2⟩

/-- A path that can be located is located in the same way where the directories are kept. -/
theorem Keeps.locate {t t' : Tree} (h : t.Keeps t') {p : Path} {target : Target × Bool}
    (hl : t.locate p = .ok target) : t'.locate p = .ok target := by
  rw [locate_eq] at hl ⊢
  rw [start_congr h.workingPlace rfl]
  split_ifs at hl ⊢
  cases hlast : p.steps.getLast? with
  | none => simpa only [hlast] using hl
  | some last =>
    simp only [hlast] at hl ⊢
    obtain ⟨dir, hdir, hl⟩ := bind_eq_ok.mp hl
    exact bind_eq_ok.mpr ⟨dir, h.descend hdir, hl⟩

/-! ### Operations -/

/-- What stands where a path leads is what the path finds. -/
theorem find_of_locate {t : Tree} {p : Path} {q : Place} {e : Entry}
    (hl : t.locate p = .ok (.named q, false)) (he : t.entry? q = some e) : t.find p = .ok e := by
  unfold find
  rw [hl]
  cases e <;> simp [bind, Except.bind, he] <;> rfl

theorem writablePlace_eq_ok {t : Tree} {p : Path} {q : Place} :
    t.writablePlace p = .ok q ↔
      t.locate p = .ok (.named q, false) ∧ t.entry? q ≠ some .directory := by
  unfold writablePlace
  rw [bind_eq_ok]
  constructor
  · rintro ⟨⟨target, slash⟩, hl, h⟩
    cases target with
    | directory => cases h
    | named place =>
      cases slash with
      | true => cases h
      | false =>
        simp only [Bool.false_eq_true, if_false] at h
        split at h
        · cases h
        · next hnot =>
          cases h
          exact ⟨hl, hnot⟩
  · rintro ⟨hl, hnot⟩
    refine ⟨_, hl, ?_⟩
    cases hentry : t.entry? q with
    | none =>
      simp only [hentry]
      rfl
    | some e =>
      cases e with
      | file content =>
        simp only [hentry]
        rfl
      | directory => exact absurd hentry hnot

/-- Writing a text puts a file where the path leads, if no directory stands there. -/
theorem writeText_eq_ok {t t' : Tree} {p : Path} {text : String} :
    t.writeText p text = .ok t' ↔ ∃ q, t.locate p = .ok (.named q, false) ∧
      t.entry? q ≠ some .directory ∧ t' = t.set q (.file text.toUTF8) := by
  unfold writeText writeBytes
  rw [bind_eq_ok]
  simp only [writablePlace_eq_ok, and_assoc]
  exact exists_congr fun q => and_congr_right fun _ => and_congr_right fun _ =>
    ⟨fun h => (Except.ok.inj h).symm, fun h => h ▸ rfl⟩

/-- Making a directory puts one where the path leads, if nothing stands there. -/
theorem makeDirectory_eq_ok {t t' : Tree} {p : Path} :
    t.makeDirectory p = .ok t' ↔ ∃ q slash, t.locate p = .ok (.named q, slash) ∧
      t.entry? q = none ∧ t' = t.set q .directory := by
  unfold makeDirectory
  rw [bind_eq_ok]
  constructor
  · rintro ⟨⟨target, slash⟩, hl, h⟩
    cases target with
    | directory => cases h
    | named place =>
      cases hentry : t.entry? place with
      | some e => simp only [hentry] at h; cases h
      | none =>
        simp only [hentry] at h
        exact ⟨place, slash, hl, hentry, (Except.ok.inj h).symm⟩
  · rintro ⟨q, slash, hl, hentry, rfl⟩
    exact ⟨_, hl, by simp only [hentry]; rfl⟩

end Tree

end EntityForge.Storage
