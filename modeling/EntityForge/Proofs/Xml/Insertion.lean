import EntityForge.Proofs.Outcome
import EntityForge.Proofs.Xml.Elements

/-!
# Trees with foreign subtrees

Look-ups go by name, so a subtree without any of the names that are looked for cannot be seen. A
tree and the same tree with such subtrees put in, at any places and any number of them, agree in
everything that looking up those names can find: the first child, all children, and the first
element below, which is searched for in the whole tree. What is found agrees in the same way, so
that one look-up can follow another.
-/

namespace EntityForge.Xml

open Outcome

variable {names : List String}

/-- No element of a tree has one of some names. -/
def Foreign (names : List String) (s : Element) : Prop :=
  ∀ e ∈ s :: s.descendants, e.name ∉ names

/-- A tree with another one put in as a child, at any place among the children of any element. -/
inductive Inserted (s : Element) : Element → Element → Prop
  /-- It is put in among the children of the root. -/
  | direct (name : String) (attributes : List (String × String)) (before after : List Element)
    (text : String) :
    Inserted s ⟨name, attributes, before ++ after, text⟩
      ⟨name, attributes, before ++ s :: after, text⟩
  /-- It is put in somewhere in a child of the root. -/
  | nested (name : String) (attributes : List (String × String)) (before after : List Element)
    (text : String) {c c' : Element} : Inserted s c c' →
    Inserted s ⟨name, attributes, before ++ c :: after, text⟩
      ⟨name, attributes, before ++ c' :: after, text⟩

/-! ### Trees that agree but for foreign subtrees -/

/-- A list of trees with foreign trees put in, among them and in them. -/
inductive Interspersed (names : List String) : List Element → List Element → Prop
  /-- There is no tree. -/
  | nil : Interspersed names [] []
  /-- A tree of the list, which may itself have foreign trees put in. -/
  | child (name : String) (attributes : List (String × String)) (text : String)
    {children children' rest rest' : List Element} : Interspersed names children children' →
    Interspersed names rest rest' →
    Interspersed names (⟨name, attributes, children, text⟩ :: rest)
      (⟨name, attributes, children', text⟩ :: rest')
  /-- A foreign tree. -/
  | foreign {s : Element} {rest rest' : List Element} : Foreign names s →
    Interspersed names rest rest' → Interspersed names rest (s :: rest')

/-- A tree is another one with foreign trees put in. -/
structure Resembles (names : List String) (e e' : Element) : Prop where
  /-- The name is the same. -/
  name : e.name = e'.name
  /-- The attributes are the same. -/
  attributes : e.attributes = e'.attributes
  /-- The text is the same. -/
  text : e.text = e'.text
  /-- The children are the same, with foreign trees put in. -/
  children : Interspersed names e.children e'.children

theorem Interspersed.cons {e e' : Element} {rest rest' : List Element} (h : Resembles names e e')
    (hrest : Interspersed names rest rest') : Interspersed names (e :: rest) (e' :: rest') := by
  obtain ⟨name, attributes, children, text⟩ := e
  obtain ⟨name', attributes', children', text'⟩ := e'
  obtain ⟨rfl, rfl, rfl, hchildren⟩ := h
  exact .child name attributes text hchildren hrest

mutual

theorem Resembles.refl (e : Element) : Resembles names e e := by
  match e with
  | ⟨_, _, children, _⟩ => exact ⟨rfl, rfl, rfl, Interspersed.refl children⟩

theorem Interspersed.refl (es : List Element) : Interspersed names es es := by
  match es with
  | [] => exact .nil
  | e :: rest => exact .cons (Resembles.refl e) (Interspersed.refl rest)

end

theorem Interspersed.append_left {es es' : List Element} (before : List Element)
    (h : Interspersed names es es') : Interspersed names (before ++ es) (before ++ es') := by
  induction before with
  | nil => exact h
  | cons e before ih => exact .cons (.refl e) ih

/-- One foreign tree that is put in makes a tree that agrees. -/
theorem Inserted.resembles {s e e' : Element} (hs : Foreign names s) (h : Inserted s e e') :
    Resembles names e e' := by
  induction h with
  | direct name attributes before after text =>
    exact ⟨rfl, rfl, rfl, (Interspersed.foreign hs (.refl after)).append_left before⟩
  | nested name attributes before after text _ ih =>
    exact ⟨rfl, rfl, rfl, (Interspersed.cons ih (.refl after)).append_left before⟩

/-! ### Looking up names -/

theorem Foreign.name_ne {s : Element} {name : String} (hs : Foreign names s)
    (hname : name ∈ names) : s.name ≠ name := by
  rintro rfl
  exact hs s List.mem_cons_self hname

theorem Foreign.descendant?_eq_none {s : Element} {name : String} (hs : Foreign names s)
    (hname : name ∈ names) : s.descendant? name = none := by
  rw [Element.descendant?_eq_none]
  rintro e he rfl
  exact hs e (List.mem_cons_of_mem s he) hname

/-- The children of a name agree one by one. -/
theorem Interspersed.filter {es es' : List Element} {name : String} (h : Interspersed names es es')
    (hname : name ∈ names) :
    List.Forall₂ (Resembles names) (es.filter (·.name == name)) (es'.filter (·.name == name)) := by
  induction h with
  | nil => exact .nil
  | child name' attributes text hchildren _ _ ih =>
    rw [List.filter_cons, List.filter_cons]
    by_cases hbeq : (name' == name) = true
    · rw [if_pos hbeq, if_pos hbeq]
      exact .cons ⟨rfl, rfl, rfl, hchildren⟩ ih
    · rw [if_neg hbeq, if_neg hbeq]
      exact ih
  | foreign hs _ ih =>
    rw [List.filter_cons, if_neg (mt beq_iff_eq.mp (hs.name_ne hname))]
    exact ih

/-- The first elements of a name in two lists of trees agree. The induction is on how the one list
comes from the other, as the search is: the children of a tree come before the trees behind it. -/
theorem Interspersed.firstAmong {es es' : List Element} {name : String}
    (h : Interspersed names es es')
    (hname : name ∈ names) :
    Option.Rel (Resembles names) (Element.firstAmong es name) (Element.firstAmong es' name) := by
  induction h with
  | nil => exact .none
  | child name' attributes text hchildren _ ihchildren ihrest =>
    rw [Element.firstAmong, Element.firstAmong, Element.descendant?, Element.descendant?]
    by_cases hbeq : (name' == name) = true
    · rw [if_pos hbeq, if_pos hbeq]
      exact .some ⟨rfl, rfl, rfl, hchildren⟩
    · rw [if_neg hbeq, if_neg hbeq]
      exact rel_or ihchildren ihrest
  | foreign hs _ ih =>
    rw [Element.firstAmong_cons_of_ne (hs.name_ne hname), hs.descendant?_eq_none hname]
    exact ih

namespace Resembles

variable {e e' : Element} {name : String}

theorem attribute? (h : Resembles names e e') (key : String) :
    e.attribute? key = e'.attribute? key := by
  rw [Element.attribute?, Element.attribute?, h.attributes]

theorem childrenNamed (h : Resembles names e e') (hname : name ∈ names) :
    List.Forall₂ (Resembles names) (e.childrenNamed name) (e'.childrenNamed name) :=
  h.children.filter hname

theorem child? (h : Resembles names e e') (hname : name ∈ names) :
    Option.Rel (Resembles names) (e.child? name) (e'.child? name) := by
  rw [Element.child?, Element.child?, ← List.head?_filter, ← List.head?_filter]
  exact rel_head? (h.children.filter hname)

theorem childText? (h : Resembles names e e') (hname : name ∈ names) :
    e.childText? name = e'.childText? name := by
  rw [Element.childText?, Element.childText?]
  have hrel := h.child? hname
  generalize e.child? name = o at hrel ⊢
  generalize e'.child? name = o' at hrel ⊢
  cases hrel with
  | none => rfl
  | some hc => rw [Option.map_some, Option.map_some, hc.text]

theorem descendant? (h : Resembles names e e') (hname : name ∈ names) :
    Option.Rel (Resembles names) (e.descendant? name) (e'.descendant? name) := by
  rw [Element.descendant?_eq_firstAmong, Element.descendant?_eq_firstAmong]
  exact h.children.firstAmong hname

end Resembles

end EntityForge.Xml
