import EntityForge.Model.Naming
import EntityForge.Proofs.Text.Case
import EntityForge.Proofs.Text.Runs
import Mathlib.Tactic.NthRewrite

/-!
# Characters of names

A class name is spelled with the characters of the code of its table. Words are cut at underscores
and put in another case, and nothing else is dropped or replaced: an ASCII character that is neither
a letter nor an underscore stands in the name just where it stands in the part of the code that the
name is made of.
-/

namespace EntityForge.Model

open Text (Caseless clusters clustersFrom)

theorem flatten_clustersFrom (state : Text.ClusterState) (current cs : List Char) :
    (clustersFrom state current cs).flatten = current.reverse ++ cs := by
  induction cs generalizing state current with
  | nil => simp [clustersFrom]
  | cons c cs ih =>
    rw [clustersFrom]
    split
    · rw [ih, List.reverse_cons, List.append_assoc, List.singleton_append]
    · rw [List.flatten_cons, ih, List.reverse_singleton, List.singleton_append]

/-- The clusters of a text make up the text. -/
theorem flatten_clusters (cs : List Char) : (clusters cs).flatten = cs := by
  cases cs with
  | nil => rfl
  | cons c cs => rw [clusters, flatten_clustersFrom, List.reverse_singleton, List.singleton_append]

theorem flatten_filterMap_pieces (pieces : List (List (List Char))) :
    (pieces.filterMap fun piece => if piece.isEmpty then none else some piece.flatten).flatten =
      pieces.flatten.flatten := by
  induction pieces with
  | nil => rfl
  | cons piece rest ih =>
    rw [List.flatten_cons, List.flatten_append, ← ih, List.filterMap_cons]
    cases piece with
    | nil => rfl
    | cons cluster piece => rfl

/-- The words of a name hold all its clusters but those that they are cut at. -/
theorem flatten_words (name : List Char) :
    (words name).flatten = ((clusters name).filter (· != ['_'])).flatten := by
  rw [words, flatten_filterMap_pieces, Text.flatten_splitOnP]
  rfl

theorem ne_nil_of_mem_clustersFrom {state : Text.ClusterState} {current cs cluster : List Char}
    (hcurrent : current ≠ []) (h : cluster ∈ clustersFrom state current cs) : cluster ≠ [] := by
  induction cs generalizing state current with
  | nil =>
    rw [List.mem_singleton.mp h]
    exact mt List.reverse_eq_nil_iff.mp hcurrent
  | cons c cs ih =>
    rw [clustersFrom] at h
    split at h
    · exact ih (List.cons_ne_nil c current) h
    · rcases List.mem_cons.mp h with rfl | h
      · exact mt List.reverse_eq_nil_iff.mp hcurrent
      · exact ih (List.cons_ne_nil c []) h

theorem ne_nil_of_mem_clusters {cs cluster : List Char} (h : cluster ∈ clusters cs) :
    cluster ≠ [] := by
  cases cs with
  | nil => cases h
  | cons c cs => exact ne_nil_of_mem_clustersFrom (List.cons_ne_nil c []) h

theorem ne_nil_of_mem_words {name word : List Char} (h : word ∈ words name) : word ≠ [] := by
  obtain ⟨piece, hpiece, hword⟩ := List.mem_filterMap.mp h
  cases piece with
  | nil => cases hword
  | cons cluster rest =>
    obtain rfl := Option.some.inj hword
    have hcluster : cluster ∈ clusters name := by
      have hflatten : cluster ∈ ((clusters name).splitOnP (· == ['_'])).flatten :=
        List.mem_flatten.mpr ⟨_, hpiece, List.mem_cons_self⟩
      rw [Text.flatten_splitOnP] at hflatten
      exact (List.mem_filter.mp hflatten).1
    rw [List.flatten_cons]
    exact fun hnil => ne_nil_of_mem_clusters hcluster (List.append_eq_nil_iff.mp hnil).1

variable {x : Char}

theorem mem_flatten_words (hx : x ≠ '_') {name : List Char} :
    x ∈ (words name).flatten ↔ x ∈ name := by
  rw [flatten_words]
  nth_rewrite 2 [← flatten_clusters name]
  simp only [List.mem_flatten, List.mem_filter, bne_iff_ne, ne_eq]
  refine exists_congr fun cluster => ⟨fun ⟨h, hmem⟩ => ⟨h.1, hmem⟩, fun ⟨h, hmem⟩ => ?_⟩
  refine ⟨⟨h, ?_⟩, hmem⟩
  rintro rfl
  exact hx (List.mem_singleton.mp hmem)

theorem mem_capitalized_iff (hx : Caseless x) {word : List Char} :
    x ∈ capitalized word ↔ x ∈ word := by
  nth_rewrite 2 [← flatten_clusters word]
  rw [capitalized]
  cases clusters word with
  | nil => rfl
  | cons first rest =>
    simp only [List.mem_append, Text.mem_upperText_iff hx, Text.mem_lowerText_iff hx,
      List.flatten_cons]

theorem capitalized_ne_nil {word : List Char} (h : word ≠ []) : capitalized word ≠ [] := by
  rw [← flatten_clusters word] at h
  rw [capitalized]
  cases hclusters : clusters word with
  | nil => simp [hclusters] at h
  | cons first rest =>
    have hfirst : first ≠ [] := ne_nil_of_mem_clusters (hclusters ▸ List.mem_cons_self)
    obtain ⟨c, cs, rfl⟩ := List.exists_cons_of_ne_nil hfirst
    simp [Text.upperText, Text.upper_ne_nil c]

/-- A class name has a character without case if the name it is made of has it. -/
theorem mem_upperCamel_iff (hx : Caseless x) (hne : x ≠ '_') {name : String} :
    x ∈ (upperCamel name).toList ↔ x ∈ name.toList := by
  rw [upperCamel, String.toList_ofList, List.mem_flatMap]
  simp only [mem_capitalized_iff hx]
  rw [← List.mem_flatten, mem_flatten_words hne]

theorem orElseName_of_ne {name : String} (h : name ≠ "") (fallback : String) :
    orElseName name fallback = name :=
  if_neg h

namespace Naming

/-- The part of a code that the class name is made of: what is left without the prefix, or the whole
code if that leaves no word. -/
def namedPart (n : Naming) (code : String) : String :=
  if upperCamel (n.stripped code) = "" then code else n.stripped code

theorem mem_className_iff (hx : Caseless x) (hne : x ≠ '_') (n : Naming) (code : String) :
    x ∈ (n.className code).toList ↔ x ∈ (n.namedPart code).toList := by
  rw [className, namedPart, orElseName, orElseName]
  split_ifs
  · rfl
  · exact mem_upperCamel_iff hx hne
  · exact mem_upperCamel_iff hx hne

/-- No field name begins with an ASCII capital: its first word is in lower case, and a name without
words is made of underscores. -/
theorem isUpper_of_mem_head?_fieldName {columnName : String} {c : Char}
    (h : c ∈ (fieldName columnName).toList.head?) : c.isUpper = false := by
  rw [fieldName, orElseName] at h
  cases hwords : words columnName.toList with
  | nil =>
    have hnone : lowerCamel columnName = "" := by rw [lowerCamel, hwords]
    rw [if_pos hnone] at h
    have hunderscore : c = '_' := by
      by_contra hne
      have hmem := (mem_flatten_words hne).mpr (List.mem_of_mem_head? h)
      rw [hwords] at hmem
      cases hmem
    rw [hunderscore]
    decide
  | cons first rest =>
    have hfirst : Text.lowerText first ≠ [] :=
      Text.lowerText_ne_nil (ne_nil_of_mem_words (hwords ▸ List.mem_cons_self))
    have hlower : (lowerCamel columnName).toList =
        Text.lowerText first ++ rest.flatMap capitalized := by
      rw [lowerCamel, hwords]
      exact String.toList_ofList
    have hsome : lowerCamel columnName ≠ "" := by
      intro hnone
      rw [hnone] at hlower
      exact hfirst (List.append_eq_nil_iff.mp hlower.symm).1
    rw [if_neg hsome, hlower, List.head?_append_of_ne_nil _ hfirst] at h
    exact Text.isUpper_of_mem_lowerText (List.mem_of_mem_head? h)

end Naming

end EntityForge.Model
