import EntityForge.Proofs.Storage.Steps
import EntityForge.Proofs.Text.Runs

/-!
# Components of paths

A file of a simple name behind a path has the components of the path and its name, and the path
above it is that path. No component has a slash in its name, so a text with a slash behind a path is
not a file of that name in it, wherever it leads. Joining is associative, and names that are joined
one behind another are components behind those of the path that they start from.
-/

namespace EntityForge.Storage

/-! ### Components -/

theorem not_mem_of_mem_pieces {text piece : String} (h : piece ∈ pieces text) :
    '/' ∉ piece.toList := by
  obtain ⟨cs, hcs, rfl⟩ := List.mem_map.mp h
  rw [String.toList_ofList]
  intro hslash
  have hmem := List.mem_flatten_of_mem hcs hslash
  rw [Text.flatten_splitOnP] at hmem
  simpa using (List.mem_filter.mp hmem).2

namespace Path

theorem same_iff {p q : Path} : p.same q = true ↔ p.components = q.components := beq_iff_eq

theorem mem_of_mem_componentsOf {absolute : Bool} {ps : List String} {name : String}
    (h : .named name ∈ componentsOf absolute ps) : name ∈ ps := by
  have hpiece : ∀ {piece}, Component.ofPiece? piece = some (.named name) → piece = name :=
    fun hof => (ofPiece?_text hof).1.symm
  cases ps with
  | nil => cases h
  | cons first rest =>
    rcases List.mem_append.mp h with h | h
    · split_ifs at h
      · simp at h
      · simp at h
      · rw [← hpiece (Option.mem_toList.mp h)]
        exact List.mem_cons_self
    · obtain ⟨piece, hmem, hof⟩ := List.mem_filterMap.mp h
      rw [← hpiece hof]
      exact List.mem_cons_of_mem first hmem

/-- No component has a slash in its name. -/
theorem not_mem_of_named {p : Path} {name : String} (h : .named name ∈ p.components) :
    '/' ∉ name.toList := by
  rw [components_eq] at h
  exact not_mem_of_mem_pieces (mem_of_mem_componentsOf h)

/-! ### Files of a directory -/

/-- A path leads to something of a name directly inside a directory. -/
structure DirectlyIn (dir : Path) (name : String) (p : Path) : Prop where
  /-- The path above is that of the directory. -/
  parent : ∃ above, p.parent? = some above ∧ above.components = dir.components
  /-- The name is one component behind those of the directory. -/
  components : p.components = dir.components ++ [.named name]

theorem dropLast_componentsOf_single (s : String) : (componentsOf false [s]).dropLast = [] := by
  simp only [componentsOf, Bool.false_eq_true, if_false, List.filterMap_nil, List.append_nil]
  split
  · rfl
  · cases Component.ofPiece? s <;> rfl

/-- The path above another one has all its components but the last. -/
theorem components_parent? {p above : Path} (h : p.parent? = some above) :
    above.components = p.components.dropLast := by
  obtain ⟨last, rest, hlast, hmem, hrest, hcut, rfl⟩ := exists_of_parent? h
  have hcomponents := (ofReversed_dropTail p.text.toList.reverse).1
  rw [ofReversed_text, hrest] at hcomponents
  rw [(ofReversed_dropTail rest).1, ← hcomponents]
  rcases hcut with rfl | ⟨hof, rest', rfl⟩
  · -- the path is a single component
    have hsingle : '/' ∉ (ofReversed (last.text.toList.reverse ++ [])).text.toList := by
      simpa [ofReversed] using hmem
    rw [components_eq (ofReversed (last.text.toList.reverse ++ [])), pieces_of_not_mem hsingle,
      isAbsolute_eq_false_of_not_mem hsingle, dropLast_componentsOf_single]
    rfl
  · have habs := isAbsolute_ofReversed_append last.text.toList.reverse
      (List.cons_ne_nil '/' rest')
    rw [components_eq, components_eq (ofReversed (last.text.toList.reverse ++ '/' :: rest')),
      pieces_ofReversed_slash, pieces_ofReversed_append rest' (by simpa using hmem), habs,
      componentsOf_concat (pieces_ne_nil _), componentsOf_concat (pieces_ne_nil _),
      List.reverse_reverse, String.ofList_toList, hof, Option.toList_some, List.dropLast_concat]
    exact List.append_nil _

/-- Behind the components of a path comes the name of a file in it. -/
theorem components_join {dir : Path} {name : String} (hslash : '/' ∉ name.toList)
    (hname : Component.ofPiece? name = some (.named name)) :
    (dir.join ⟨name⟩).components = dir.components ++ [.named name] := by
  have habs : (⟨name⟩ : Path).isAbsolute = false := isAbsolute_eq_false_of_not_mem hslash
  rw [components_eq, isAbsolute_join habs, join, if_neg (by simp [habs])]
  split_ifs with hempty hend
  · obtain ⟨text⟩ := dir
    obtain rfl : text = "" := hempty
    have hdot : name ≠ "." := fun heq => by simp [heq, Component.ofPiece?] at hname
    have hnone : (⟨""⟩ : Path).components = [] := by decide
    rw [pieces_of_not_mem hslash, isAbsolute_empty, hnone]
    simp [componentsOf, hdot, hname]
  · obtain ⟨a, ha⟩ := exists_of_getLast?_slash (by simpa using hend)
    have hpieces : pieces dir.text = pieces a ++ [""] := by
      rw [ha, ← pieces_empty, ← pieces_append_slash, String.append_empty]
    rw [ha, pieces_append_slash, pieces_of_not_mem hslash, componentsOf_concat (pieces_ne_nil _),
      hname, components_eq, hpieces, componentsOf_concat (pieces_ne_nil _)]
    simp [Component.ofPiece?]
  · rw [pieces_append_slash, pieces_of_not_mem hslash, componentsOf_concat (pieces_ne_nil _), hname,
      components_eq]
    rfl

theorem directlyIn_join {dir : Path} {name : String}
    (hname : Component.ofPiece? name = some (.named name)) :
    DirectlyIn dir name (dir.join ⟨name⟩) ↔ '/' ∉ name.toList := by
  constructor
  · intro h
    refine not_mem_of_named (p := dir.join ⟨name⟩) ?_
    rw [h.components]
    simp
  · intro hslash
    have hcomponents : (dir.join ⟨name⟩).components = dir.components ++ [.named name] :=
      components_join hslash hname
    obtain ⟨above, habove⟩ : ∃ above, (dir.join ⟨name⟩).parent? = some above := by
      rw [parent?, hcomponents, List.getLast?_concat]
      exact ⟨_, rfl⟩
    refine ⟨⟨above, habove, ?_⟩, hcomponents⟩
    rw [components_parent? habove, hcomponents, List.dropLast_concat]

/-! ### Joining -/

theorem join_of_isAbsolute {p q : Path} (h : q.isAbsolute = true) : p.join q = q := by
  rw [join, if_pos h]

theorem empty_join (q : Path) : (⟨""⟩ : Path).join q = q := by
  rw [join, if_pos rfl, ite_self]

/-- What stands between a path and a relative one behind it. -/
def separator (p : Path) : String := if p.text.toList.getLast? == some '/' then "" else "/"

theorem text_join {p q : Path} (h : q.isAbsolute = false) (hempty : p.text ≠ "") :
    (p.join q).text = p.text ++ p.separator ++ q.text := by
  rw [join, if_neg (by simp [h]), if_neg hempty, separator]
  split_ifs
  · rw [String.append_empty]
  · rfl

theorem getLast?_text_join_empty {p : Path} (hempty : p.text ≠ "") :
    (p.join ⟨""⟩).text.toList.getLast? = some '/' := by
  rw [text_join isAbsolute_empty hempty, separator]
  split_ifs with hslash
  · simpa using hslash
  · simp

/-- Paths join in any order. -/
theorem join_assoc (p q r : Path) : (p.join q).join r = p.join (q.join r) := by
  cases hr : r.isAbsolute with
  | true => rw [join_of_isAbsolute hr, join_of_isAbsolute hr, join_of_isAbsolute hr]
  | false =>
    cases hq : q.isAbsolute with
    | true => rw [join_of_isAbsolute hq, join_of_isAbsolute ((isAbsolute_join hr).trans hq)]
    | false =>
      by_cases hp : p.text = ""
      · rw [show p = ⟨""⟩ from congrArg Path.mk hp, empty_join, empty_join]
      · have hqr : (q.join r).isAbsolute = false := (isAbsolute_join hr).trans hq
        have hpq : (p.join q).text ≠ "" := by
          rw [text_join hq hp]
          simp [hp]
        refine congrArg Path.mk (?_ : ((p.join q).join r).text = (p.join (q.join r)).text)
        rw [text_join hr hpq, text_join hqr hp]
        by_cases hempty : q.text = ""
        · obtain rfl : q = ⟨""⟩ := congrArg Path.mk hempty
          rw [empty_join, separator, getLast?_text_join_empty hp, text_join hq hp]
          simp
        · have hseparator : (p.join q).separator = q.separator := by
            have hne : q.text.toList ≠ [] := by simpa using hempty
            rw [separator, separator, text_join hq hp, String.toList_append,
              List.getLast?_append_of_ne_nil _ hne]
          rw [hseparator, text_join hq hp, text_join hr hempty]
          simp only [String.append_assoc]

/-- Joining the empty path adds a slash at most, which is no component. -/
theorem components_join_empty (p : Path) : (p.join ⟨""⟩).components = p.components := by
  by_cases hempty : p.text = ""
  · rw [show p = ⟨""⟩ from congrArg Path.mk hempty, empty_join]
  · rw [components_eq, isAbsolute_join isAbsolute_empty, text_join isAbsolute_empty hempty,
      components_eq, separator]
    split_ifs with hslash
    · rw [String.append_empty, String.append_empty]
    · rw [pieces_append_slash, pieces_empty, componentsOf_concat (pieces_ne_nil _)]
      simp [Component.ofPiece?]

/-! ### Names behind a path -/

/-- Whatever is not nothing, a dot or two dots is a name. -/
theorem ofPiece?_of_ne {piece : String} (hempty : piece ≠ "") (hdots : piece ≠ "." ∧ piece ≠ "..") :
    Component.ofPiece? piece = some (.named piece) := by
  unfold Component.ofPiece?
  split
  · exact absurd rfl hempty
  · exact absurd rfl hdots.1
  · exact absurd rfl hdots.2
  · rfl

/-- A text that is one step of a path, down to something of that name. -/
structure IsName (name : String) : Prop where
  /-- It is one piece. -/
  single : '/' ∉ name.toList
  /-- It is no empty piece. -/
  ne_empty : name ≠ ""
  /-- It neither stays nor goes up. -/
  ne_dots : name ≠ "." ∧ name ≠ ".."

/-- The path of names one behind another, behind a path. -/
def behind (p : Path) (names : List String) : Path := names.foldl (fun path s => path.join ⟨s⟩) p

@[simp] theorem behind_cons (p : Path) (name : String) (rest : List String) :
    p.behind (name :: rest) = (p.join ⟨name⟩).behind rest := rfl

theorem join_behind (p q : Path) (names : List String) :
    p.join (q.behind names) = (p.join q).behind names := by
  induction names generalizing q with
  | nil => rfl
  | cons name rest ih => rw [behind_cons, behind_cons, ih, join_assoc]

theorem components_behind {names : List String} (h : ∀ name ∈ names, IsName name) (p : Path) :
    (p.behind names).components = p.components ++ names.map .named := by
  induction names generalizing p with
  | nil => exact (List.append_nil _).symm
  | cons name rest ih =>
    obtain ⟨hname, hrest⟩ := List.forall_mem_cons.mp h
    rw [behind_cons, ih hrest, components_join hname.single
        (ofPiece?_of_ne hname.ne_empty hname.ne_dots), List.map_cons,
      List.append_assoc, List.singleton_append]

theorem steps_behind {names : List String} (h : ∀ name ∈ names, IsName name) (p : Path) :
    (p.behind names).steps = p.steps ++ names := by
  induction names generalizing p with
  | nil => exact (List.append_nil _).symm
  | cons name rest ih =>
    obtain ⟨hname, hrest⟩ := List.forall_mem_cons.mp h
    rw [behind_cons, ih hrest, steps_join (isAbsolute_eq_false_of_not_mem hname.single),
      steps_of_not_mem hname.single hname.ne_empty, List.append_assoc, List.singleton_append]

theorem isAbsolute_behind {names : List String} (h : ∀ name ∈ names, IsName name) (p : Path) :
    (p.behind names).isAbsolute = p.isAbsolute := by
  induction names generalizing p with
  | nil => rfl
  | cons name rest ih =>
    obtain ⟨hname, hrest⟩ := List.forall_mem_cons.mp h
    rw [behind_cons, ih hrest, isAbsolute_join (isAbsolute_eq_false_of_not_mem hname.single)]

end Path

end EntityForge.Storage
