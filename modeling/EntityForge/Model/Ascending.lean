/-!
# Lists in ascending order of a name

Sets of names and tables by name are kept as lists that ascend strictly, in the order of code
points. Insertion keeps the order and replaces an item of the same name.
-/

namespace EntityForge.Model

/-- Whether the names of a list ascend strictly. -/
def Ascending {α : Type} (key : α → String) (items : List α) : Prop :=
  items.Pairwise fun a b => key a < key b

/-- A list in ascending order with one more item, which replaces one of the same name. -/
def insertAscending {α : Type} (key : α → String) (a : α) : List α → List α
  | [] => [a]
  | b :: rest =>
    if key a < key b then a :: b :: rest
    else if key a = key b then a :: rest
    else b :: insertAscending key a rest

theorem mem_insertAscending {α : Type} {key : α → String} {a x : α} {items : List α} :
    x ∈ insertAscending key a items → x = a ∨ x ∈ items := by
  induction items with
  | nil => simp [insertAscending]
  | cons b rest ih =>
    simp only [insertAscending]
    split
    · simp
    · split
      · intro h
        rcases List.mem_cons.1 h with h | h
        · exact .inl h
        · exact .inr (List.mem_cons_of_mem _ h)
      · intro h
        rcases List.mem_cons.1 h with h | h
        · exact .inr (h ▸ List.mem_cons_self)
        · exact (ih h).imp_right (List.mem_cons_of_mem _)

theorem ascending_insertAscending {α : Type} {key : α → String} {a : α} {items : List α}
    (h : Ascending key items) : Ascending key (insertAscending key a items) := by
  induction items with
  | nil => simp [Ascending, insertAscending]
  | cons b rest ih =>
    obtain ⟨hb, hrest⟩ := List.pairwise_cons.1 h
    simp only [insertAscending]
    split
    · next hlt =>
      refine List.pairwise_cons.2 ⟨fun x hx => ?_, h⟩
      rcases List.mem_cons.1 hx with rfl | hx
      · exact hlt
      · exact String.lt_trans hlt (hb x hx)
    · split
      · next heq => exact List.pairwise_cons.2 ⟨fun x hx => heq ▸ hb x hx, hrest⟩
      · next hlt hne =>
        refine List.pairwise_cons.2 ⟨fun x hx => ?_, ih hrest⟩
        rcases mem_insertAscending hx with rfl | hx
        · have hle := String.not_lt.1 hlt
          exact Decidable.byContradiction fun hba =>
            hne (String.le_antisymm (String.not_lt.1 hba) hle)
        · exact hb x hx

/-- A set of names, listed in ascending order. -/
structure NameSet where
  /-- The names. -/
  names : List String := []
  /-- The names ascend. -/
  ascending : Ascending id names := by exact List.Pairwise.nil

namespace NameSet

/-- The set of no names. -/
def empty : NameSet := ⟨[], .nil⟩

/-- The set with one more name. -/
def insert (s : NameSet) (name : String) : NameSet :=
  ⟨insertAscending id name s.names, ascending_insertAscending s.ascending⟩

/-- The set of the names of a list. -/
def ofList (names : List String) : NameSet :=
  names.foldl insert empty

instance : BEq NameSet := ⟨fun a b => a.names == b.names⟩

instance : Repr NameSet := ⟨fun s n => reprPrec s.names n⟩

end NameSet

end EntityForge.Model
