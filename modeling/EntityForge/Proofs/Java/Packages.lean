import EntityForge.Java.Identifier
import Mathlib.Tactic.SplitIfs

/-!
# Packages

A package that is accepted is empty, or is written as identifiers with dots between them. No
identifier has a dot, so the identifiers are the segments of the package again.
-/

namespace EntityForge.Java

/-- An identifier has no character that can neither start one nor stand in one. -/
theorem not_mem_of_isIdentifier {s : String} {c : Char} (h : isIdentifier s = true)
    (hstarts : startsIdentifier c = false) (hin : inIdentifier c = false) : c ∉ s.toList := by
  rw [isIdentifier] at h
  intro hmem
  split at h
  · cases h
  · next first rest hs =>
    obtain ⟨hfirst, hrest⟩ := Bool.and_eq_true_iff.mp h
    rw [hs] at hmem
    rcases List.mem_cons.mp hmem with rfl | hmem
    · rw [hstarts] at hfirst
      cases hfirst
    · have hc := List.all_eq_true.mp hrest c hmem
      rw [hin] at hc
      cases hc

/-- A package: nothing, or identifiers with dots between them. -/
def IsPackage (package : String) : Prop :=
  package = "" ∨ ∃ names, names ≠ [] ∧ (∀ name ∈ names, isIdentifier name = true) ∧
    package = ".".intercalate names

theorem segments_ne_nil (package : String) : segments package ≠ [] := by
  simp [segments, List.splitOnP_ne_nil]

theorem segments_eq (package : String) :
    segments package = (package.toList.splitOn '.').map String.ofList := rfl

/-- A package is its segments with dots between them. -/
theorem intercalate_segments (package : String) : ".".intercalate (segments package) = package := by
  refine String.toList_inj.mp ?_
  have hchars : (segments package).map String.toList = package.toList.splitOn '.' := by
    rw [segments_eq, List.map_map]
    simp
  rw [String.toList_intercalate, hchars]
  exact List.intercalate_splitOn '.'

/-- Names without dots are the segments of what they make with dots between them. -/
theorem segments_intercalate {names : List String} (hne : names ≠ [])
    (hdot : ∀ name ∈ names, '.' ∉ name.toList) : segments (".".intercalate names) = names := by
  have hsplit : (['.'].intercalate (names.map String.toList)).splitOn '.' =
      names.map String.toList :=
    List.splitOn_intercalate '.' (List.forall_mem_map.mpr hdot) (by simpa using hne)
  have hdots : ".".toList = ['.'] := rfl
  rw [segments_eq, String.toList_intercalate, hdots, hsplit, List.map_map]
  simp

/-- No segment is found fault with just where there is a package. -/
theorem badSegment?_eq_none {package : String} :
    badSegment? package = none ↔ IsPackage package := by
  rw [badSegment?]
  split_ifs with hempty
  · exact iff_of_true rfl (.inl hempty)
  · have hnone : (segments package).find? (fun s => !isIdentifier s) = none ↔
        ∀ s ∈ segments package, isIdentifier s = true := by simp
    rw [hnone]
    constructor
    · intro h
      exact .inr ⟨segments package, segments_ne_nil package, h, (intercalate_segments package).symm⟩
    · rintro (h | ⟨names, hne, hnames, rfl⟩)
      · exact absurd h hempty
      · have hdot : ∀ name ∈ names, '.' ∉ name.toList := fun name hname =>
          not_mem_of_isIdentifier (hnames name hname) (by decide) (by decide)
        rwa [segments_intercalate hne hdot]

end EntityForge.Java
