import EntityForge.Xml.Element

/-!
# The elements below an element

Looking for the first element of a name is looking through all elements below in document order, and
looking for the first child of a name is looking through the children of the name. What is looked for
under another name is found whether the children of a name are there or not.
-/

namespace EntityForge.Xml.Element

theorem child?_eq_head? (e : Element) (name : String) :
    e.child? name = (e.childrenNamed name).head? :=
  (List.head?_filter ..).symm

theorem descendants_eq (e : Element) : e.descendants = preorder e.children := by
  cases e
  rw [descendants]

theorem descendant?_eq_firstAmong (e : Element) (name : String) :
    e.descendant? name = firstAmong e.children name := by
  cases e
  rw [descendant?]

theorem firstAmong_cons_of_ne {e : Element} {name : String} (h : e.name ≠ name)
    (rest : List Element) :
    firstAmong (e :: rest) name = (e.descendant? name).or (firstAmong rest name) := by
  rw [firstAmong, if_neg (mt beq_iff_eq.mp h)]

mutual

/-- The first element of a name below an element is the first one in document order. -/
theorem descendant?_eq_find? (e : Element) (name : String) :
    e.descendant? name = e.descendants.find? (·.name == name) := by
  match e with
  | ⟨_, _, children, _⟩ =>
    rw [descendant?, descendants]
    exact firstAmong_eq_find? children name

theorem firstAmong_eq_find? (es : List Element) (name : String) :
    firstAmong es name = (preorder es).find? (·.name == name) := by
  match es with
  | [] => rfl
  | e :: rest =>
    rw [firstAmong, preorder, List.find?_cons, List.find?_append,
      descendant?_eq_find? e name, firstAmong_eq_find? rest name]
    cases e.name == name <;> rfl

end

/-- Children that do not have the name and have nothing of the name below them are passed over. -/
theorem firstAmong_append {before : List Element} {name : String}
    (h : ∀ b ∈ before, b.name ≠ name ∧ b.descendant? name = none) (after : List Element) :
    firstAmong (before ++ after) name = firstAmong after name := by
  induction before with
  | nil => rfl
  | cons b before ih =>
    obtain ⟨⟨hname, hbelow⟩, hbefore⟩ := List.forall_mem_cons.mp h
    rw [List.cons_append, firstAmong_cons_of_ne hname, hbelow, Option.none_or, ih hbefore]

/-- Nothing is found just where no element below has the name. -/
theorem descendant?_eq_none {e : Element} {name : String} :
    e.descendant? name = none ↔ ∀ d ∈ e.descendants, d.name ≠ name := by
  rw [descendant?_eq_find?, List.find?_eq_none]
  exact forall₂_congr fun d _ => not_congr beq_iff_eq

mutual

/-- Of two elements one below the other, the lower one has fewer elements below it. -/
theorem length_descendants_lt {e d : Element} (h : d ∈ e.descendants) :
    d.descendants.length < e.descendants.length := by
  match e with
  | ⟨_, _, children, _⟩ =>
    rw [descendants] at h ⊢
    exact length_descendants_lt_preorder h

theorem length_descendants_lt_preorder {es : List Element} {d : Element} (h : d ∈ preorder es) :
    d.descendants.length < (preorder es).length := by
  match es with
  | [] => cases h
  | e :: rest =>
    rw [preorder, List.length_cons, List.length_append]
    rw [preorder, List.mem_cons, List.mem_append] at h
    rcases h with rfl | h | h
    · omega
    · have := length_descendants_lt h
      omega
    · have := length_descendants_lt_preorder h
      omega

end

theorem mem_preorder_of_mem {es : List Element} {c d : Element} (hc : c ∈ es)
    (hd : d ∈ c :: c.descendants) : d ∈ preorder es := by
  induction es with
  | nil => cases hc
  | cons e rest ih =>
    rw [preorder, ← List.cons_append, List.mem_append]
    rcases List.mem_cons.mp hc with rfl | hc
    · exact .inl hd
    · exact .inr (ih hc)

theorem preorder_eq_flatMap (es : List Element) :
    preorder es = es.flatMap fun e => e :: e.descendants := by
  induction es with
  | nil => rfl
  | cons e rest ih => rw [preorder, ih, List.flatMap_cons, List.cons_append]

theorem preorder_append (es es' : List Element) :
    preorder (es ++ es') = preorder es ++ preorder es' := by
  rw [preorder_eq_flatMap, preorder_eq_flatMap, preorder_eq_flatMap, List.flatMap_append]

theorem preorder_single (e : Element) : preorder [e] = e :: e.descendants := by
  rw [preorder, preorder, List.append_nil]

/-- Elements in another order have the same elements below them. -/
theorem preorder_perm {es es' : List Element} (h : es.Perm es') :
    (preorder es).Perm (preorder es') := by
  rw [preorder_eq_flatMap, preorder_eq_flatMap]
  exact h.flatMap_right _

/-- What is below a child is below the element. -/
theorem mem_descendants_of_mem {e c d : Element} (hc : c ∈ e.children)
    (hd : d ∈ c :: c.descendants) : d ∈ e.descendants := by
  rw [descendants_eq]
  exact mem_preorder_of_mem hc hd

/-! ### Elements without some children -/

/-- An element without its children of a name. -/
def without (e : Element) (name : String) : Element :=
  { e with children := e.children.filter (·.name != name) }

section

variable {e : Element} {name other : String}

@[simp] theorem attribute?_without : (e.without name).attribute? other = e.attribute? other := rfl

/-- The children of other names are all there. -/
theorem childrenNamed_without (h : other ≠ name) :
    (e.without name).childrenNamed other = e.childrenNamed other := by
  rw [childrenNamed, childrenNamed, without, List.filter_filter]
  refine List.filter_congr fun c _ => ?_
  by_cases hc : c.name = other
  · simp [hc, h]
  · simp [hc]

theorem child?_without (h : other ≠ name) : (e.without name).child? other = e.child? other := by
  rw [child?_eq_head?, child?_eq_head?, childrenNamed_without h]

theorem childText?_without (h : other ≠ name) :
    (e.without name).childText? other = e.childText? other := by
  rw [childText?, childText?, child?_without h]

theorem childText?_without_self : (e.without name).childText? name = none := by
  have hnone : (e.without name).childrenNamed name = [] := by
    rw [childrenNamed, without, List.filter_filter]
    simp
  rw [childText?, child?_eq_head?, hnone, List.head?_nil, Option.map_none]

theorem firstAmong_filter (h : other ≠ name) {es : List Element}
    (hnone : ∀ c ∈ es, c.name = name → c.descendant? other = none) :
    firstAmong (es.filter (·.name != name)) other = firstAmong es other := by
  induction es with
  | nil => rfl
  | cons c es ih =>
    obtain ⟨hc, hes⟩ := List.forall_mem_cons.mp hnone
    by_cases hname : c.name = name
    · have hother : c.name ≠ other := fun hc => h (hc.symm.trans hname)
      rw [List.filter_cons_of_neg (by simp [hname]), firstAmong_cons_of_ne hother, hc hname,
        Option.none_or, ih hes]
    · rw [List.filter_cons_of_pos (by simp [hname]), firstAmong, firstAmong, ih hes]

/-- What is further below is found if it is not inside the children that are left out. -/
theorem descendant?_without (h : other ≠ name)
    (hnone : ∀ c ∈ e.childrenNamed name, c.descendant? other = none) :
    (e.without name).descendant? other = e.descendant? other := by
  rw [descendant?_eq_firstAmong, descendant?_eq_firstAmong]
  exact firstAmong_filter h fun c hc hname =>
    hnone c (List.mem_filter.mpr ⟨hc, beq_iff_eq.mpr hname⟩)

end

end EntityForge.Xml.Element
