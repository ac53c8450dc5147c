import EntityForge.Storage.Path
import Mathlib.Data.List.Infix
import Mathlib.Data.List.TakeWhile

/-!
# The steps of a path

A path is followed step by step. The steps are its pieces between slashes, less the empty ones: two
dots and single dots are steps as well. Joining puts the steps of two paths behind one another, and
a path above another one takes only its first steps, or is empty. These are the facts that tie the
paths on which directories are made to the path that was asked for.

A path is cut at its end, so the characters of its text are listed last first in this module.
-/

namespace EntityForge.Storage

/-! ### Pieces -/

theorem pieces_ne_nil (text : String) : pieces text ≠ [] := by
  simp [pieces, List.splitOnP_ne_nil]

@[simp] theorem pieces_empty : pieces "" = [""] := by
  simp [pieces]

theorem pieces_of_not_mem {text : String} (h : '/' ∉ text.toList) : pieces text = [text] := by
  have hne : ∀ c ∈ text.toList, (c == '/') = false := by
    intro c hc
    simpa using fun heq : c = '/' => h (heq ▸ hc)
  simp [pieces, List.splitOnP_eq_singleton hne]

theorem pieces_append_slash (a b : String) : pieces (a ++ "/" ++ b) = pieces a ++ pieces b := by
  simp [pieces, List.splitOnP_append_cons]

/-- The path of the characters of a text, last first. -/
def Path.ofReversed (cs : List Char) : Path := ⟨String.ofList cs.reverse⟩

theorem Path.ofReversed_text (p : Path) : Path.ofReversed p.text.toList.reverse = p := by
  simp [Path.ofReversed]

theorem pieces_ofReversed_slash (cs : List Char) :
    pieces (Path.ofReversed ('/' :: cs)).text = pieces (Path.ofReversed cs).text ++ [""] := by
  simp [Path.ofReversed, pieces, List.splitOnP_append_cons]

/-- A path that ends in a piece without slashes, behind a slash. -/
theorem pieces_ofReversed_append (rest : List Char) {piece : List Char} (h : '/' ∉ piece) :
    pieces (Path.ofReversed (piece ++ '/' :: rest)).text =
      pieces (Path.ofReversed rest).text ++ [String.ofList piece.reverse] := by
  have hne : ∀ c ∈ piece.reverse, (c == '/') = false := by
    intro c hc
    simpa using fun heq : c = '/' => h (heq ▸ List.mem_reverse.mp hc)
  simp [Path.ofReversed, pieces, List.splitOnP_append_cons, List.splitOnP_eq_singleton hne]

namespace Path

/-! ### Steps -/

/-- The steps of a path. -/
def steps (p : Path) : List String := (pieces p.text).filter (· != "")

@[simp] theorem steps_empty : (⟨""⟩ : Path).steps = [] := by
  simp [steps]

theorem steps_of_not_mem {name : String} (h : '/' ∉ name.toList) (hne : name ≠ "") :
    (⟨name⟩ : Path).steps = [name] := by
  simp [steps, pieces_of_not_mem h, hne]

theorem isAbsolute_eq_false_of_not_mem {name : String} (h : '/' ∉ name.toList) :
    (⟨name⟩ : Path).isAbsolute = false := by
  simp only [isAbsolute, beq_eq_false_iff_ne, ne_eq]
  exact fun hhead => h (List.mem_of_head? hhead)

@[simp] theorem isAbsolute_empty : (⟨""⟩ : Path).isAbsolute = false := by
  simp [isAbsolute]

/-- What ends in a slash has the steps of what is before the slash. -/
theorem steps_append_slash (a : String) : (⟨a ++ "/"⟩ : Path).steps = (⟨a⟩ : Path).steps := by
  have := pieces_append_slash a ""
  simp only [String.append_empty, pieces_empty] at this
  simp [steps, this]

/-- A path whose text goes on after that of another one starts where that one does. -/
theorem isAbsolute_append {a : String} (b : String) (h : a ≠ "") :
    (⟨a ++ b⟩ : Path).isAbsolute = (⟨a⟩ : Path).isAbsolute := by
  have hne : a.toList ≠ [] := by simpa using h
  obtain ⟨c, cs, hcs⟩ := List.exists_cons_of_ne_nil hne
  simp [isAbsolute, hcs]

theorem exists_of_getLast?_slash {text : String} (h : text.toList.getLast? = some '/') :
    ∃ a : String, text = a ++ "/" := by
  obtain ⟨cs, hcs⟩ := List.getLast?_eq_some_iff.mp h
  exact ⟨String.ofList cs, String.toList_inj.mp (by simp [hcs])⟩

/-- Behind a path come the steps of a relative one. -/
theorem steps_join {p q : Path} (h : q.isAbsolute = false) :
    (p.join q).steps = p.steps ++ q.steps := by
  rw [join, if_neg (by simp [h])]
  split_ifs with hempty hslash
  · rw [show p = ⟨""⟩ from congrArg Path.mk hempty, steps_empty, List.nil_append]
  · obtain ⟨a, ha⟩ := exists_of_getLast?_slash (by simpa using hslash)
    have hp : p.steps = (⟨a⟩ : Path).steps := by
      rw [show p = ⟨a ++ "/"⟩ from congrArg Path.mk ha, steps_append_slash]
    rw [hp, ha, steps, steps, steps, pieces_append_slash, List.filter_append]
  · rw [steps, steps, steps, pieces_append_slash, List.filter_append]

theorem isAbsolute_join {p q : Path} (h : q.isAbsolute = false) :
    (p.join q).isAbsolute = p.isAbsolute := by
  rw [join, if_neg (by simp [h])]
  split_ifs with hempty hslash
  · rw [h, show p = ⟨""⟩ from congrArg Path.mk hempty, isAbsolute_empty]
  · exact isAbsolute_append q.text hempty
  · rw [String.append_assoc]
    exact isAbsolute_append _ hempty

/-! ### Components -/

/-- The components that pieces stand for, the first piece at the start of the path. -/
def componentsOf (absolute : Bool) : List String → List Component
  | first :: rest =>
    (if absolute then [Component.root]
      else if first == "." then [Component.here]
      else (Component.ofPiece? first).toList) ++ rest.filterMap Component.ofPiece?
  | [] => []

theorem components_eq (p : Path) : p.components = componentsOf p.isAbsolute (pieces p.text) := by
  rw [components]
  cases pieces p.text <;> rfl

theorem componentsOf_concat {absolute : Bool} {ps : List String} (h : ps ≠ []) (piece : String) :
    componentsOf absolute (ps ++ [piece]) =
      componentsOf absolute ps ++ (Component.ofPiece? piece).toList := by
  obtain ⟨first, rest, rfl⟩ := List.exists_cons_of_ne_nil h
  cases hpiece : Component.ofPiece? piece <;> simp [componentsOf, List.filterMap_append, hpiece]

theorem ofPiece?_text {piece : String} {c : Component} (h : Component.ofPiece? piece = some c) :
    c.text = piece ∧ c ≠ .root := by
  unfold Component.ofPiece? at h
  split at h
  · cases h
  · cases h
  · cases h
    exact ⟨rfl, by simp⟩
  · cases h
    exact ⟨rfl, by simp⟩

/-- Only nothing and a lone dot stand for no component. -/
theorem ofPiece?_eq_none {piece : String} (h : Component.ofPiece? piece = none) :
    piece = "" ∨ piece = "." := by
  unfold Component.ofPiece? at h
  split at h <;> simp_all

theorem isAbsolute_ofReversed_append {cs : List Char} (ds : List Char) (h : cs ≠ []) :
    (ofReversed (ds ++ cs)).isAbsolute = (ofReversed cs).isAbsolute := by
  rw [ofReversed, List.reverse_append, String.ofList_append]
  exact isAbsolute_append _ (by simpa using h)

/-! ### The end of a path -/

theorem steps_ofReversed_slash (cs : List Char) :
    (ofReversed ('/' :: cs)).steps = (ofReversed cs).steps := by
  simp [steps, pieces_ofReversed_slash]

/-- Cutting slashes and lone dots off the end keeps the components, and no step that remains
is a new one. -/
theorem ofReversed_dropTail (cs : List Char) :
    (ofReversed (dropTail cs)).components = (ofReversed cs).components ∧
      (ofReversed (dropTail cs)).steps <+: (ofReversed cs).steps ∧
      (ofReversed (dropTail cs)).isAbsolute = (ofReversed cs).isAbsolute := by
  fun_induction dropTail cs with
  | case1 rest hempty =>
    rw [List.isEmpty_iff.mp hempty]
    exact ⟨rfl, List.prefix_refl _, rfl⟩
  | case2 rest hne ih =>
    have hrest : rest ≠ [] := by simpa using hne
    have habs := isAbsolute_ofReversed_append ['/'] hrest
    refine ⟨?_, ?_, ih.2.2.trans habs.symm⟩
    · rw [ih.1, components_eq, components_eq, pieces_ofReversed_slash,
        componentsOf_concat (pieces_ne_nil _)]
      simp only [List.singleton_append] at habs
      simp [habs, Component.ofPiece?]
    · rw [steps_ofReversed_slash]
      exact ih.2.1
  | case3 rest ih =>
    have habs := isAbsolute_ofReversed_append ['.'] (List.cons_ne_nil '/' rest)
    have hpieces := pieces_ofReversed_append rest (by decide : '/' ∉ ['.'])
    simp only [List.singleton_append] at habs hpieces
    refine ⟨?_, ?_, ih.2.2.trans habs.symm⟩
    · rw [ih.1, components_eq, components_eq, pieces_ofReversed_slash, hpieces, habs,
        componentsOf_concat (pieces_ne_nil _), componentsOf_concat (pieces_ne_nil _)]
      simp [Component.ofPiece?]
    · refine ih.2.1.trans ?_
      rw [steps_ofReversed_slash, steps, steps, hpieces, List.filter_append]
      exact List.prefix_append _ _
  | case4 => exact ⟨rfl, List.prefix_refl _, rfl⟩

/-- What is left of a path whose end has been cut is a lone slash, or ends in neither a slash nor
a lone dot. -/
theorem dropTail_trimmed (cs : List Char) :
    dropTail cs = ['/'] ∨
      (∀ rest, dropTail cs ≠ '/' :: rest) ∧ ∀ rest, dropTail cs ≠ '.' :: '/' :: rest := by
  fun_induction dropTail cs with
  | case1 rest hempty => exact .inl rfl
  | case2 rest hne ih => exact ih
  | case3 rest ih => exact ih
  | case4 cs hslash hdot => exact .inr ⟨fun rest h => hslash rest h, fun rest h => hdot rest h⟩

/-- A path without slashes is its only component. -/
theorem text_of_getLast?_single {s : String} {last : Component}
    (h : (componentsOf false [s]).getLast? = some last) : last.text = s := by
  simp only [componentsOf, Bool.false_eq_true, if_false, List.filterMap_nil, List.append_nil] at h
  split_ifs at h with hdot
  · cases h
    exact (by simpa using hdot : s = ".").symm
  · cases hpiece : Component.ofPiece? s with
    | none => simp [hpiece] at h
    | some c =>
      simp only [hpiece, Option.toList_some, List.getLast?_singleton, Option.some.injEq] at h
      exact h ▸ (ofPiece?_text hpiece).1

/-- The text of the last component stands at the end of a trimmed path, behind a slash or at the
start. -/
theorem eq_append_of_getLast? {cs : List Char} {last : Component}
    (htrim : cs = ['/'] ∨ (∀ rest, cs ≠ '/' :: rest) ∧ ∀ rest, cs ≠ '.' :: '/' :: rest)
    (h : (ofReversed cs).components.getLast? = some last) (hroot : last ≠ .root) :
    '/' ∉ last.text.toList ∧
      ∃ rest, cs = last.text.toList.reverse ++ rest ∧
        (rest = [] ∨ Component.ofPiece? last.text = some last ∧ ∃ rest', rest = '/' :: rest') := by
  have hcs : cs = cs.takeWhile (· != '/') ++ cs.dropWhile (· != '/') :=
    (List.takeWhile_append_dropWhile).symm
  have hpiece : '/' ∉ cs.takeWhile (· != '/') := fun hmem => by
    simpa using List.mem_takeWhile_imp hmem
  generalize cs.takeWhile (· != '/') = piece at hcs hpiece
  cases hrest : cs.dropWhile (· != '/') with
  | nil =>
    rw [hrest, List.append_nil] at hcs
    have hmem : '/' ∉ (ofReversed cs).text.toList := by simpa [ofReversed, hcs] using hpiece
    rw [components_eq, pieces_of_not_mem hmem] at h
    rw [show (ofReversed cs).isAbsolute = false from isAbsolute_eq_false_of_not_mem hmem] at h
    rw [text_of_getLast?_single h]
    exact ⟨hmem, [], by simp [ofReversed], .inl rfl⟩
  | cons c rest =>
    have hc : c = '/' := by
      have := List.head_dropWhile_not (· != '/') (l := cs) (by simp [hrest])
      simpa [hrest] using this
    subst hc
    rw [hrest] at hcs
    subst hcs
    have hlast := h
    rw [components_eq, pieces_ofReversed_append rest hpiece,
      componentsOf_concat (pieces_ne_nil _)] at h
    cases hof : Component.ofPiece? (String.ofList piece.reverse) with
    | some d =>
      rw [hof, Option.toList_some, List.getLast?_concat, Option.some.injEq] at h
      rw [← h, (ofPiece?_text hof).1]
      exact ⟨by simpa using hpiece, '/' :: rest, by simp, .inr ⟨hof, rest, rfl⟩⟩
    | none =>
      -- The path would end in a slash or a lone dot, so it is the root.
      have hlone : piece = [] ∨ piece = ['.'] := by
        refine (ofPiece?_eq_none hof).imp (fun heq => ?_) fun heq => ?_
        · simpa using heq
        · simpa using congrArg (List.reverse ∘ String.toList) heq
      rcases htrim with hslash | ⟨hnoslash, hnodot⟩
      · rw [hslash] at hlast
        have hcomponents : (ofReversed ['/']).components = [.root] := by decide
        rw [hcomponents, List.getLast?_singleton, Option.some.injEq] at hlast
        exact absurd hlast.symm hroot
      · rcases hlone with rfl | rfl
        · exact absurd rfl (hnoslash rest)
        · exact absurd rfl (hnodot rest)

/-! ### Paths above a path -/

/-- A path above another one takes only its first steps, from the same start. -/
structure Above (a p : Path) : Prop where
  /-- The steps are the first ones. -/
  steps : a.steps <+: p.steps
  /-- A path that takes a step at all starts where the other one does. -/
  start : a.steps ≠ [] → a.isAbsolute = p.isAbsolute

theorem Above.refl (p : Path) : p.Above p := ⟨List.prefix_refl _, fun _ => rfl⟩

theorem Above.trans {a b p : Path} (hab : a.Above b) (hbp : b.Above p) : a.Above p := by
  refine ⟨hab.steps.trans hbp.steps, fun ha => (hab.start ha).trans (hbp.start fun hb => ?_)⟩
  exact ha (List.prefix_nil.mp (hb ▸ hab.steps))

/-- The path above another one is what stands before the text of its last component. -/
theorem exists_of_parent? {p a : Path} (h : p.parent? = some a) :
    ∃ last rest, p.components.getLast? = some last ∧ '/' ∉ last.text.toList ∧
      dropTail p.text.toList.reverse = last.text.toList.reverse ++ rest ∧
      (rest = [] ∨ Component.ofPiece? last.text = some last ∧ ∃ rest', rest = '/' :: rest') ∧
      a = ofReversed (dropTail rest) := by
  unfold parent? at h
  split at h
  · cases h
  · cases h
  · next last hroot hlast =>
    obtain ⟨hcomponents, -, -⟩ := ofReversed_dropTail p.text.toList.reverse
    rw [ofReversed_text] at hcomponents
    have htrimmed := hlast
    rw [← hcomponents] at htrimmed
    obtain ⟨hmem, rest, hrest, hcut⟩ :=
      eq_append_of_getLast? (dropTail_trimmed _) htrimmed fun heq => hroot (heq ▸ rfl)
    have hdrop : (dropTail p.text.toList.reverse).drop last.text.length = rest := by
      rw [hrest, List.drop_left' (by rw [List.length_reverse, String.length_toList])]
    simp only [hdrop, Option.some.injEq] at h
    exact ⟨last, rest, hlast, hmem, hrest, hcut, h.symm⟩

theorem above_of_parent? {p a : Path} (h : p.parent? = some a) : a.Above p := by
  obtain ⟨last, rest, -, hmem, hrest, hcut, rfl⟩ := exists_of_parent? h
  obtain ⟨-, hsteps, habs⟩ := ofReversed_dropTail p.text.toList.reverse
  obtain ⟨-, hsteps', habs'⟩ := ofReversed_dropTail rest
  rw [ofReversed_text] at hsteps habs
  rcases hcut with rfl | ⟨-, rest', rfl⟩
  · exact ⟨by simp [dropTail, ofReversed], fun hne => absurd (by simp [dropTail, ofReversed]) hne⟩
  · -- The text of the last component and the slash before it are cut off.
    rw [hrest] at hsteps habs
    have hstart := isAbsolute_ofReversed_append last.text.toList.reverse
      (List.cons_ne_nil '/' rest')
    refine ⟨hsteps'.trans (List.IsPrefix.trans ?_ hsteps), fun _ => ?_⟩
    · rw [steps_ofReversed_slash, steps, steps,
        pieces_ofReversed_append rest' (by simpa using hmem),
        List.filter_append]
      exact List.prefix_append _ _
    · rw [habs', ← hstart, habs]

theorem above_of_mem_ancestorsWithin {fuel : Nat} {p a : Path} (h : a ∈ ancestorsWithin fuel p) :
    a.Above p := by
  induction fuel generalizing p with
  | zero => cases h
  | succ n ih =>
    rcases List.mem_cons.mp h with rfl | h
    · exact Above.refl a
    · cases hparent : p.parent? with
      | none => simp [hparent] at h
      | some b =>
        rw [hparent, Option.elim_some] at h
        exact (ih h).trans (above_of_parent? hparent)

theorem above_of_mem_ancestors {p a : Path} (h : a ∈ p.ancestors) : a.Above p :=
  above_of_mem_ancestorsWithin h

end Path

end EntityForge.Storage
