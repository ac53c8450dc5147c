import EntityForge.Proofs.Model.KeyChain
import Mathlib.Data.List.Forall2
import Mathlib.Data.List.Nodup

/-!
# Tables in another order

The children of a table can stand in any order in which those of one name keep theirs, and its keys
in any order whatever: the table gives the same entity, or the same error. So a key may stand before
or behind the reference to it, and the columns before or behind both.

Children and texts are looked up by name, so they are found in the same order. The keys are found by
their identifiers, which are different ones. Only the primary key element is looked for among all
elements below the table, in document order, and this order does change; so there is to be no more
than one.
-/

namespace EntityForge.Model

open Outcome
open Xml (Element)

/-! ### Rearrangements -/

/-- A collection of keys with its children in another order, or any element as it is. -/
inductive KeysPermuted : Element → Element → Prop
  /-- The children of the collection are permuted. -/
  | keys (attributes : List (String × String)) (text : String) {cs cs' : List Element} :
    cs.Perm cs' → KeysPermuted ⟨"Keys", attributes, cs, text⟩ ⟨"Keys", attributes, cs', text⟩
  /-- The element is the same. -/
  | same (c : Element) : KeysPermuted c c

/-- Elements in another order in which those of one name keep theirs. -/
structure Reordered (cs cs' : List Element) : Prop where
  /-- They are the same elements. -/
  perm : cs.Perm cs'
  /-- Those of one name are in the same order. -/
  order : ∀ name, cs.filter (·.name == name) = cs'.filter (·.name == name)

/-- A table with its children in another order, and with its keys in another order. -/
structure Rearranged (table table' : Element) : Prop where
  /-- The name is the same. -/
  name : table.name = table'.name
  /-- The attributes are the same. -/
  attributes : table.attributes = table'.attributes
  /-- The text is the same. -/
  text : table.text = table'.text
  /-- The keys are permuted, and then the children are put in another order. -/
  children : ∃ middle, List.Forall₂ KeysPermuted table.children middle ∧
    Reordered middle table'.children

theorem eq_of_perm_of_length_le_one {α : Type} {as bs : List α} (h : as.Perm bs)
    (hone : as.length ≤ 1) : as = bs := by
  match as with
  | [] => exact h.nil_eq
  | [a] => exact h.singleton_eq
  | _ :: _ :: _ => simp at hone

/-- Elements of different names can be put in any order. -/
theorem reordered_of_nodup {cs cs' : List Element} (hnames : (cs.map (·.name)).Nodup)
    (h : cs.Perm cs') : Reordered cs cs' := by
  refine ⟨h, fun name => eq_of_perm_of_length_le_one (h.filter _) ?_⟩
  have hcount := List.nodup_iff_count_le_one.mp hnames name
  rwa [List.count, List.countP_map, List.countP_eq_length_filter] at hcount

/-! ### Children of a table -/

variable {table table' : Element}

theorem KeysPermuted.name {c c' : Element} (h : KeysPermuted c c') : c.name = c'.name := by
  cases h with
  | keys => rfl
  | same => rfl

/-- The children of a name agree, up to the order of keys. -/
theorem Rearranged.forall₂_childrenNamed (h : Rearranged table table') (name : String) :
    List.Forall₂ KeysPermuted (table.childrenNamed name) (table'.childrenNamed name) := by
  obtain ⟨middle, hkeys, hreordered⟩ := h.children
  rw [Element.childrenNamed, Element.childrenNamed, ← hreordered.order name]
  refine List.rel_filter (fun c c' hc => ?_) hkeys
  show (c.name == name) = true ↔ (c'.name == name) = true
  rw [hc.name]

theorem eq_of_keysPermuted {cs cs' : List Element} (h : List.Forall₂ KeysPermuted cs cs')
    (hname : ∀ c ∈ cs, c.name ≠ "Keys") : cs = cs' := by
  induction h with
  | nil => rfl
  | cons hc _ ih =>
    obtain ⟨hhead, htail⟩ := List.forall_mem_cons.mp hname
    rw [ih htail]
    cases hc with
    | keys => exact absurd rfl hhead
    | same => rfl

/-- The children of a name other than that of the keys are the same. -/
theorem Rearranged.childrenNamed (h : Rearranged table table') {name : String}
    (hname : name ≠ "Keys") : table.childrenNamed name = table'.childrenNamed name := by
  refine eq_of_keysPermuted (h.forall₂_childrenNamed name) fun c hc => ?_
  have hcname := (List.mem_filter.mp hc).2
  rwa [beq_iff_eq.mp hcname]

theorem Rearranged.child? (h : Rearranged table table') {name : String} (hname : name ≠ "Keys") :
    table.child? name = table'.child? name := by
  rw [Element.child?_eq_head?, Element.child?_eq_head?, h.childrenNamed hname]

theorem Rearranged.childText? (h : Rearranged table table') {name : String}
    (hname : name ≠ "Keys") : table.childText? name = table'.childText? name := by
  rw [Element.childText?, Element.childText?, h.child? hname]

/-! ### Keys -/

/-- The keys of a table are permuted. -/
theorem Rearranged.keysOf (h : Rearranged table table') : (keysOf table).Perm (keysOf table') := by
  have hrel := rel_head? (h.forall₂_childrenNamed "Keys")
  rw [← Element.child?_eq_head?, ← Element.child?_eq_head?] at hrel
  show ((table.child? "Keys").elim [] _).Perm ((table'.child? "Keys").elim [] _)
  generalize table.child? "Keys" = o at hrel ⊢
  generalize table'.child? "Keys" = o' at hrel ⊢
  cases hrel with
  | none => exact .nil
  | some hkeys =>
    cases hkeys with
    | keys _ _ hperm => exact hperm.filter _
    | same => exact .refl _

/-- A reference finds the same key. -/
theorem Rearranged.keyOfId? (h : Rearranged table table') (hkeys : DistinctKeys table)
    (id : String) : keyOfId? table id = keyOfId? table' id := by
  have hkeys' : DistinctKeys table' := (h.keysOf.filterMap _).nodup_iff.mp hkeys
  refine Option.ext fun key => ?_
  rw [keyOfId?_eq_some hkeys, keyOfId?_eq_some hkeys', h.keysOf.mem_iff]

/-! ### The primary key element -/

/-- The elements of a name other than that of the keys, in the order in which they stand in a
table, are permuted. -/
theorem filter_preorder_perm {cs cs' : List Element} (h : List.Forall₂ KeysPermuted cs cs')
    {name : String} (hname : name ≠ "Keys") :
    ((Element.preorder cs).filter (·.name == name)).Perm
      ((Element.preorder cs').filter (·.name == name)) := by
  induction h with
  | nil => exact .refl _
  | @cons c c' _ _ hc _ ih =>
    rw [Element.preorder, Element.preorder, ← List.cons_append, ← List.cons_append,
      List.filter_append, List.filter_append]
    refine .append ?_ ih
    cases hc with
    | same => exact .refl _
    | keys _ _ hperm =>
      have hskip : ("Keys" == name) = false := beq_eq_false_iff_ne.mpr hname.symm
      simp only [List.filter_cons, hskip, Element.descendants_eq]
      exact (Element.preorder_perm hperm).filter _

theorem Rearranged.descendant? (h : Rearranged table table') {name : String}
    (hname : name ≠ "Keys") (hone : (table.descendants.filter (·.name == name)).length ≤ 1) :
    table.descendant? name = table'.descendant? name := by
  obtain ⟨middle, hkeys, hreordered⟩ := h.children
  have hperm : (table.descendants.filter (·.name == name)).Perm
      (table'.descendants.filter (·.name == name)) := by
    rw [Element.descendants_eq, Element.descendants_eq]
    exact (filter_preorder_perm hkeys hname).trans
      ((Element.preorder_perm hreordered.perm).filter _)
  rw [Element.descendant?_eq_find?, Element.descendant?_eq_find?, ← List.head?_filter,
    ← List.head?_filter, eq_of_perm_of_length_le_one hperm hone]

/-! ### Entities -/

theorem keyPath_rearranged (h : Rearranged table table') (hkeys : DistinctKeys table)
    (hone : (table.descendants.filter (·.name == "PrimaryKey")).length ≤ 1) :
    keyPath table = keyPath table' := by
  simp only [keyPath, h.descendant? (by decide) hone, h.keyOfId? hkeys]

/-- A table with its children or its keys in another order gives the same entity, or the same
error. -/
theorem entityOfTable_rearranged (h : Rearranged table table') (hkeys : DistinctKeys table)
    (hone : (table.descendants.filter (·.name == "PrimaryKey")).length ≤ 1) (naming : Naming)
    (types : TypeTable) : entityOfTable naming types table' = entityOfTable naming types table := by
  have htext : ∀ name ≠ "Keys", table'.childText? name = table.childText? name :=
    fun name hname => (h.childText? hname).symm
  simp only [entityOfTable, readOptional, optionalText?, Element.attribute?, h.attributes,
    htext "Code" (by decide), htext "Comment" (by decide), htext "Creator" (by decide),
    htext "CreationDate" (by decide), h.child? (show "Columns" ≠ "Keys" by decide),
    keyPath_rearranged h hkeys hone]

/-- A table that declares its primary key before the key and the column of it. -/
def forwardTable : Element :=
  declaringTable [keyElement [("Ref", "o5")] []]

/-- The same table with its columns first and its names last, and with its keys the other way
round. -/
def backwardTable : Element :=
  ⟨"Table", [("Id", "o1")], [⟨"Columns", [], [⟨"Column", [("Id", "o2")],
      [⟨"Code", [], [], "id"⟩, ⟨"DataType", [], [], "int"⟩], ""⟩], ""⟩,
    ⟨"Keys", [], [keyElement [("Id", "o5")]
      [⟨"Key.Columns", [], [⟨"Column", [("Ref", "o2")], [], ""⟩], ""⟩],
      keyElement [("Id", "o4")] []], ""⟩,
    ⟨"PrimaryKey", [], [keyElement [("Ref", "o5")] []], ""⟩, ⟨"Code", [], [], "t_order"⟩], ""⟩

/-- The two tables give one entity, which has the primary key. -/
theorem entityOfTable_backwardTable :
    Rearranged forwardTable backwardTable ∧ ∃ e,
      entityOfTable {} .standard forwardTable = .ok e ∧
        entityOfTable {} .standard backwardTable = .ok e ∧ e.primaryKeyColId = some "o2" := by
  have hkeys : List.Forall₂ KeysPermuted forwardTable.children backwardTable.children.reverse :=
    .cons (.same _) (.cons (.same _) (.cons (.keys [] "" (.swap ..)) (.cons (.same _) .nil)))
  have hreordered : Reordered backwardTable.children.reverse backwardTable.children :=
    reordered_of_nodup (by decide) (List.reverse_perm _)
  have h : Rearranged forwardTable backwardTable := ⟨rfl, rfl, rfl, _, hkeys, hreordered⟩
  have hdistinct : DistinctKeys forwardTable := by
    rw [DistinctKeys]
    decide
  have hsame := entityOfTable_rearranged h hdistinct (by decide) {} .standard
  obtain ⟨e, he, hkey⟩ : ∃ e, entityOfTable {} .standard forwardTable = .ok e ∧
      e.primaryKeyColId = some "o2" := ⟨_, rfl, rfl⟩
  exact ⟨h, e, he, hsame.trans he, hkey⟩

end EntityForge.Model
