import EntityForge.Text.Blank
import Mathlib.Data.List.DropRight
import Mathlib.Data.List.TakeWhile
import Mathlib.Tactic.SplitIfs

/-!
# Runs of characters

A run of characters of a kind is cut off where it ends: at the end of the text or at the first
character of another kind. Trimming cuts off the runs of blanks at both ends.
-/

namespace EntityForge.Text

/-- A text at whose start a run of characters of a kind has ended. -/
def Ends (p : Char → Bool) (rest : List Char) : Prop :=
  ∀ c ∈ rest.head?, p c = false

theorem ends_nil (p : Char → Bool) : Ends p [] := by simp [Ends]

theorem ends_cons {p : Char → Bool} {c : Char} (rest : List Char) (h : p c = false) :
    Ends p (c :: rest) := by
  simpa [Ends] using h

/-- Where a run has been cut off, it has ended. -/
theorem ends_dropWhile (p : Char → Bool) (cs : List Char) : Ends p (cs.dropWhile p) := by
  intro c hc
  have hnot := List.head?_dropWhile_not p cs
  rwa [hc] at hnot

theorem takeWhile_append_of_ends {p : Char → Bool} {run rest : List Char}
    (hrun : ∀ c ∈ run, p c = true) (hrest : Ends p rest) : (run ++ rest).takeWhile p = run := by
  rw [List.takeWhile_append_of_pos hrun]
  cases rest with
  | nil => simp
  | cons c rest => simp [hrest c rfl]

theorem dropWhile_append_of_ends {p : Char → Bool} {run rest : List Char}
    (hrun : ∀ c ∈ run, p c = true) (hrest : Ends p rest) : (run ++ rest).dropWhile p = rest := by
  rw [List.dropWhile_append_of_pos hrun]
  cases rest with
  | nil => simp
  | cons c rest => simp [hrest c rfl]

/-- Reading up to a character that does not pass takes what is in front of it. -/
theorem takeWhile_append_cons {p : Char → Bool} {xs : List Char} {y : Char} (ys : List Char)
    (hxs : ∀ x ∈ xs, p x = true) (hy : p y = false) : (xs ++ y :: ys).takeWhile p = xs :=
  takeWhile_append_of_ends hxs (ends_cons ys hy)

theorem dropWhile_append_cons {p : Char → Bool} {xs : List Char} {y : Char} (ys : List Char)
    (hxs : ∀ x ∈ xs, p x = true) (hy : p y = false) : (xs ++ y :: ys).dropWhile p = y :: ys :=
  dropWhile_append_of_ends hxs (ends_cons ys hy)

/-- A run parts a text in one way only. -/
theorem append_inj_of_ends {p : Char → Bool} {run run' rest rest' : List Char}
    (hrun : ∀ c ∈ run, p c = true) (hrun' : ∀ c ∈ run', p c = true) (hrest : Ends p rest)
    (hrest' : Ends p rest') (heq : run ++ rest = run' ++ rest') : run = run' ∧ rest = rest' := by
  have htake := congrArg (List.takeWhile p) heq
  have hdrop := congrArg (List.dropWhile p) heq
  rw [takeWhile_append_of_ends hrun hrest, takeWhile_append_of_ends hrun' hrest'] at htake
  rw [dropWhile_append_of_ends hrun hrest, dropWhile_append_of_ends hrun' hrest'] at hdrop
  exact ⟨htake, hdrop⟩

/-- The first occurrence of a character parts a text in one way only. -/
theorem append_cons_inj {x : Char} {xs xs' ys ys' : List Char} (h : x ∉ xs) (h' : x ∉ xs')
    (heq : xs ++ x :: ys = xs' ++ x :: ys') : xs = xs' ∧ ys = ys' := by
  have hpasses : ∀ zs : List Char, x ∉ zs → ∀ z ∈ zs, (z != x) = true := by
    rintro zs hzs z hz
    rw [bne_iff_ne]
    rintro rfl
    exact hzs hz
  have hstop : (x != x) = false := bne_self_eq_false x
  obtain ⟨hxs, hys⟩ := append_inj_of_ends (hpasses xs h) (hpasses xs' h') (ends_cons ys hstop)
    (ends_cons ys' hstop) heq
  exact ⟨hxs, (List.cons.inj hys).2⟩

/-- No piece of a list holds an item that the list is split at. -/
theorem not_of_mem_splitOnP {α : Type} {p : α → Bool} {xs piece : List α}
    (h : piece ∈ xs.splitOnP p) : ∀ x ∈ piece, p x = false := by
  induction xs generalizing piece with
  | nil =>
    rw [List.splitOnP_nil, List.mem_singleton] at h
    simp [h]
  | cons x xs ih =>
    rw [List.splitOnP_cons_eq_if_modifyHead] at h
    obtain ⟨first, rest, hsplit⟩ := List.exists_cons_of_ne_nil (List.splitOnP_ne_nil p xs)
    rw [hsplit] at h ih
    split_ifs at h with hx
    · rcases List.mem_cons.mp h with rfl | h
      · simp
      · exact ih h
    · rcases List.mem_cons.mp h with rfl | h
      · exact List.forall_mem_cons.mpr ⟨by simpa using hx, ih List.mem_cons_self⟩
      · exact ih (List.mem_cons_of_mem first h)

/-- A text in front that is not split goes to the first piece. -/
theorem splitOn_append_left {front : List Char} {x : Char} (h : x ∉ front) (cs : List Char) :
    (front ++ cs).splitOn x = (cs.splitOn x).modifyHead (front ++ ·) := by
  obtain ⟨first, rest, hsplit⟩ := List.exists_cons_of_ne_nil (List.splitOn_ne_nil x cs)
  induction front with
  | nil => simp [hsplit]
  | cons c front ih =>
    obtain ⟨hc, hfront⟩ := List.ne_and_not_mem_of_not_mem_cons h
    rw [List.cons_append, List.splitOn_cons_eq_if_modifyHead, if_neg (by simpa using Ne.symm hc),
      ih hfront, hsplit, List.modifyHead_cons, List.modifyHead_cons, List.modifyHead_cons,
      List.cons_append]

/-- The pieces of a list hold all its items but those that it is split at. -/
theorem flatten_splitOnP {α : Type} (p : α → Bool) (xs : List α) :
    (xs.splitOnP p).flatten = xs.filter fun x => !p x := by
  induction xs with
  | nil => rw [List.splitOnP_nil]; rfl
  | cons x xs ih =>
    rw [List.splitOnP_cons_eq_if_modifyHead]
    obtain ⟨first, rest, hsplit⟩ := List.exists_cons_of_ne_nil (List.splitOnP_ne_nil p xs)
    rw [hsplit, List.flatten_cons] at ih
    cases hx : p x with
    | true => simp [hx, hsplit, ih]
    | false => simp [hx, hsplit, ih]

/-! ### Trimming -/

theorem mem_of_mem_trimChars {c : Char} {cs : List Char} (h : c ∈ trimChars cs) : c ∈ cs :=
  (List.dropWhile_sublist isBlank).subset ((List.rdropWhile_prefix isBlank _).subset h)

theorem trimChars_eq (cs : List Char) :
    trimChars cs = (cs.dropWhile isBlank).rdropWhile isBlank := rfl

/-- No blank is left at the start of a trimmed text. -/
theorem ends_trimChars (cs : List Char) : Ends isBlank (trimChars cs) := by
  obtain ⟨tail, htail⟩ := List.rdropWhile_prefix isBlank (cs.dropWhile isBlank)
  rw [← trimChars_eq] at htail
  intro c hc
  refine ends_dropWhile isBlank cs c ?_
  rw [← htail, List.head?_append, hc, Option.some_or]
  rfl

/-- No blank is left at the end of a trimmed text. -/
theorem ends_reverse_trimChars (cs : List Char) : Ends isBlank (trimChars cs).reverse := by
  rw [trimChars, trimRight, List.reverse_reverse]
  exact ends_dropWhile isBlank _

/-- A text without blanks at its ends is left as it is. -/
theorem trimChars_eq_self {cs : List Char} (hstart : Ends isBlank cs)
    (hend : Ends isBlank cs.reverse) : trimChars cs = cs := by
  have hnone : ∀ c ∈ ([] : List Char), isBlank c = true := fun _ hc => nomatch hc
  have hkept : ∀ {xs}, Ends isBlank xs → xs.dropWhile isBlank = xs :=
    dropWhile_append_of_ends hnone
  rw [trimChars, hkept hstart, trimRight, hkept hend, List.reverse_reverse]

/-- What has been trimmed is not trimmed any further. -/
theorem trimChars_trimChars (cs : List Char) : trimChars (trimChars cs) = trimChars cs :=
  trimChars_eq_self (ends_trimChars cs) (ends_reverse_trimChars cs)

/-- Blanks around a text are cut off with those of the text. -/
theorem trimChars_append {before after : List Char} (cs : List Char)
    (hbefore : ∀ c ∈ before, isBlank c = true) (hafter : ∀ c ∈ after, isBlank c = true) :
    trimChars (before ++ cs ++ after) = trimChars cs := by
  have hright : ∀ xs, trimRight (xs ++ after) = trimRight xs := fun xs => by
    rw [trimRight, List.reverse_append,
      List.dropWhile_append_of_pos fun c hc => hafter c (List.mem_reverse.mp hc), trimRight]
  rw [trimChars, List.append_assoc, List.dropWhile_append_of_pos hbefore, List.dropWhile_append,
    trimChars]
  split_ifs with hblank
  · rw [List.dropWhile_eq_nil_iff.mpr hafter, List.isEmpty_iff.mp hblank]
  · exact hright _

/-- Nothing but blanks is cut off. -/
theorem exists_trimChars (cs : List Char) :
    ∃ before after, cs = before ++ trimChars cs ++ after ∧ (∀ c ∈ before, isBlank c = true) ∧
      ∀ c ∈ after, isBlank c = true := by
  refine ⟨cs.takeWhile isBlank, (cs.dropWhile isBlank).rtakeWhile isBlank, ?_,
    fun c => List.mem_takeWhile_imp, fun c => List.mem_rtakeWhile_imp⟩
  rw [List.append_assoc, trimChars_eq, List.rdropWhile_append_rtakeWhile,
    List.takeWhile_append_dropWhile]

/-- A text is what is left of another one without the blanks at its two ends. -/
structure IsTrimmed (whole text : String) : Prop where
  /-- Only blanks stand in front of the text and behind it. -/
  around : ∃ before after, whole.toList = before ++ text.toList ++ after ∧
    (∀ c ∈ before, isBlank c = true) ∧ ∀ c ∈ after, isBlank c = true
  /-- It does not begin with a blank. -/
  first : ∀ c ∈ text.toList.head?, isBlank c = false
  /-- It does not end with a blank. -/
  last : ∀ c ∈ text.toList.getLast?, isBlank c = false

/-- A text without the blanks at its ends is one text only. -/
theorem isTrimmed_iff {whole text : String} : IsTrimmed whole text ↔ trim whole = text := by
  constructor
  · rintro ⟨⟨before, after, hwhole, hbefore, hafter⟩, hfirst, hlast⟩
    rw [← List.head?_reverse] at hlast
    rw [trim, hwhole, trimChars_append _ hbefore hafter, trimChars_eq_self hfirst hlast,
      String.ofList_toList]
  · rintro rfl
    have htrim : (trim whole).toList = trimChars whole.toList := String.toList_ofList
    obtain ⟨before, after, hwhole, hbefore, hafter⟩ := exists_trimChars whole.toList
    rw [← htrim] at hwhole
    refine ⟨⟨before, after, hwhole, hbefore, hafter⟩, ?_, ?_⟩
    · rw [htrim]
      exact ends_trimChars whole.toList
    · rw [htrim, ← List.head?_reverse]
      exact ends_reverse_trimChars whole.toList

theorem trim_of_nonBlankOf {s : Option String} {text : String} (h : nonBlankOf s = some text) :
    trim text = text := by
  obtain ⟨whole, -, hwhole⟩ := Option.bind_eq_some_iff.mp h
  rw [nonBlank?] at hwhole
  split_ifs at hwhole
  rw [← Option.some.inj hwhole, trim, trim, String.toList_ofList, trimChars_trimChars]

end EntityForge.Text
