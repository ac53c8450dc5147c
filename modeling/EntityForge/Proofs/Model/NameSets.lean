import EntityForge.Model.Ascending
import Mathlib.Tactic.SplitIfs

/-!
# Sets of names

A set made from a list has the names of the list, and sets with the same names are equal.
-/

namespace EntityForge.Model

/-- Insertion adds the item and loses none but the one of its name. -/
theorem mem_insertAscending_iff {α : Type} {key : α → String} {a x : α} {items : List α}
    (h : Ascending key items) :
    x ∈ insertAscending key a items ↔ x = a ∨ x ∈ items ∧ key x ≠ key a := by
  induction items with
  | nil => simp [insertAscending]
  | cons b rest ih =>
    obtain ⟨hb, hrest⟩ := List.pairwise_cons.mp h
    rw [insertAscending]
    split_ifs with hlt heq
    · -- all items come behind the new one
      have hne : ∀ x ∈ b :: rest, key x ≠ key a := List.forall_mem_cons.mpr
        ⟨(String.ne_of_lt hlt).symm,
          fun x hx => (String.ne_of_lt (String.lt_trans hlt (hb x hx))).symm⟩
      rw [List.mem_cons, and_iff_left_of_imp (hne x)]
    · have hne : x ∈ rest → key x ≠ key a := fun hx => heq ▸ (String.ne_of_lt (hb x hx)).symm
      have hfirst : ¬ (x = b ∧ key x ≠ key a) := by
        rintro ⟨rfl, hx⟩
        exact hx heq.symm
      rw [List.mem_cons, List.mem_cons, or_and_right, and_iff_left_of_imp hne, or_iff_right hfirst]
    · have hne : x = b → key x ≠ key a := fun hx => hx ▸ Ne.symm heq
      rw [List.mem_cons, List.mem_cons, ih hrest, or_and_right, and_iff_left_of_imp hne,
        or_left_comm]

namespace NameSet

theorem mem_insert {s : NameSet} {a x : String} :
    x ∈ (s.insert a).names ↔ x = a ∨ x ∈ s.names := by
  rw [insert, mem_insertAscending_iff s.ascending, id, id, or_and_left,
    and_iff_left (Classical.em (x = a))]

theorem mem_foldl_insert {names : List String} {s : NameSet} {x : String} :
    x ∈ (names.foldl insert s).names ↔ x ∈ s.names ∨ x ∈ names := by
  induction names generalizing s with
  | nil => simp
  | cons a rest ih =>
    rw [List.foldl_cons, ih, mem_insert, List.mem_cons]
    constructor
    · rintro ((hx | hx) | hx)
      · exact .inr (.inl hx)
      · exact .inl hx
      · exact .inr (.inr hx)
    · rintro (hx | hx | hx)
      · exact .inl (.inr hx)
      · exact .inl (.inl hx)
      · exact .inr hx

/-- The set of a list has the names of the list. -/
theorem mem_ofList {names : List String} {x : String} : x ∈ (ofList names).names ↔ x ∈ names := by
  rw [ofList, mem_foldl_insert]
  simp [empty]

theorem nodup_names (s : NameSet) : s.names.Nodup :=
  s.ascending.imp fun hlt => String.ne_of_lt hlt

/-- Sets with the same names are equal. -/
theorem ext_of_mem {s t : NameSet} (h : ∀ x, x ∈ s.names ↔ x ∈ t.names) : s = t := by
  have hperm := (List.perm_ext_iff_of_nodup s.nodup_names t.nodup_names).mpr h
  have hnames := hperm.eq_of_pairwise
    (fun a b _ _ hab hba => absurd hab (String.lt_asymm hba)) s.ascending t.ascending
  obtain ⟨names, _⟩ := s
  obtain ⟨names', _⟩ := t
  cases hnames
  rfl

end NameSet

end EntityForge.Model
