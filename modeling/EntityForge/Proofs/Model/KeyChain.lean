import EntityForge.Proofs.Outcome
import EntityForge.Model.Extraction
import EntityForge.Proofs.Xml.Elements
import Mathlib.Data.List.Pairwise

/-!
# The chain to a primary key

The documented chain starts at the first primary key element of a table. Of the keys below it, the
first that refers to another key counts. The key it refers to stands among the keys of the table,
and the first column of that key refers to the column that is the primary key. This module says the
chain on the list of elements in document order, and compares it with the way that is taken.

The two differ in one step. The way takes the first key below the primary key element and only then
asks whether it refers to anything; so where the first key refers to nothing and a later one does,
the way breaks off though the chain goes on. In all other tables with distinct keys they agree: the
way leads where the chain leads, and nowhere where a link of the chain is missing.
-/

namespace EntityForge.Model

open Outcome
open Xml (Element)

/-- The keys of a table: the children of that name of its first `Keys` child. -/
def keysOf (table : Element) : List Element :=
  (table.children.find? (·.name == "Keys")).elim [] fun keys =>
    keys.children.filter (·.name == "Key")

/-- No two keys of a table have one identifier. -/
def DistinctKeys (table : Element) : Prop :=
  ((keysOf table).filterMap (·.attribute? "Id")).Nodup

/-- The chain from a table to a reference to a column. -/
structure ChainTo (table : Element) (ref : String) (primaryKey key columns column : Element)
    (id : String) : Prop where
  /-- The primary key element is the first one below the table. -/
  declared : table.descendants.find? (·.name == "PrimaryKey") = some primaryKey
  /-- Of the keys below it, the first that refers to anything refers to the identifier. -/
  referred : (primaryKey.descendants.filter (·.name == "Key")).findSome? (·.attribute? "Ref") =
    some id
  /-- A key of the table has the identifier. -/
  found : key ∈ keysOf table ∧ key.attribute? "Id" = some id
  /-- The columns of the key are its first child of that name. -/
  listed : key.children.find? (·.name == "Key.Columns") = some columns
  /-- The first of them counts. -/
  first : columns.children.find? (·.name == "Column") = some column
  /-- It refers to the column. -/
  leads : column.attribute? "Ref" = some ref

/-- The chain from a table leads to a reference to a column. -/
def LeadsTo (table : Element) (ref : String) : Prop :=
  ∃ primaryKey key columns column id, ChainTo table ref primaryKey key columns column id

/-- The first key below the first primary key element of a table refers to another key. -/
def FirstKeyRefers (table : Element) : Prop :=
  ∃ primaryKey key id, table.descendants.find? (·.name == "PrimaryKey") = some primaryKey ∧
    primaryKey.descendants.find? (·.name == "Key") = some key ∧ key.attribute? "Ref" = some id

/-! ### Steps of the way -/

/-- The way leads to a reference if each of its steps finds something. -/
theorem column?_keyPath_eq_some {table : Element} {ref : String} :
    (keyPath table).column? = some ref ↔ ∃ primaryKey id key,
      table.descendant? "PrimaryKey" = some primaryKey ∧
      (primaryKey.descendant? "Key").bind (·.attribute? "Ref") = some id ∧
      keyOfId? table id = some key ∧ firstColumn? key = some ref := by
  unfold keyPath
  constructor
  · intro h
    split at h
    · cases h
    · next primaryKey hprimaryKey =>
      split at h
      · cases h
      · next id hid =>
        split at h
        · cases h
        · next key hkey =>
          split at h
          · cases h
          · next column hcolumn =>
            exact ⟨primaryKey, id, key, hprimaryKey, hid, hkey, hcolumn.trans h⟩
  · rintro ⟨primaryKey, id, key, hprimaryKey, hid, hkey, hcolumn⟩
    simp [hprimaryKey, hid, hkey, hcolumn, KeyPath.column?]

/-- Of items with distinct marks, the last with a mark is the only one with it. -/
theorem getLast?_filter_eq_some {α : Type} {mark : α → Option String} {items : List α}
    (h : (items.filterMap mark).Nodup) {m : String} {a : α} :
    (items.filter fun b => mark b == some m).getLast? = some a ↔ a ∈ items ∧ mark a = some m := by
  have hmem : ∀ b, b ∈ items.filter (fun b => mark b == some m) ↔ b ∈ items ∧ mark b = some m :=
    fun b => by rw [List.mem_filter, beq_iff_eq]
  have hdistinct := (List.pairwise_filterMap.mp h).sublist
    (List.filter_sublist (p := fun b => mark b == some m))
  rw [← hmem]
  generalize items.filter (fun b => mark b == some m) = hits at hmem hdistinct ⊢
  match hits with
  | [] => simp
  | [b] => simp [eq_comm]
  | b :: c :: rest =>
    -- two items with the mark would make it occur twice
    have hb := ((hmem b).mp List.mem_cons_self).2
    have hc := ((hmem c).mp (List.mem_cons_of_mem b List.mem_cons_self)).2
    exact absurd rfl (List.rel_of_pairwise_cons hdistinct List.mem_cons_self m hb m hc)

/-- The way finds the key that has the identifier. -/
theorem keyOfId?_eq_some {table key : Element} {id : String} (h : DistinctKeys table) :
    keyOfId? table id = some key ↔ key ∈ keysOf table ∧ key.attribute? "Id" = some id :=
  getLast?_filter_eq_some h

theorem firstColumn?_eq_some {key : Element} {ref : String} :
    firstColumn? key = some ref ↔ ∃ columns column,
      key.children.find? (·.name == "Key.Columns") = some columns ∧
      columns.children.find? (·.name == "Column") = some column ∧
      column.attribute? "Ref" = some ref := by
  simp only [firstColumn?, Option.bind_eq_some_iff, Element.child?]
  constructor
  · rintro ⟨column, ⟨columns, hcolumns, hcolumn⟩, href⟩
    exact ⟨columns, column, hcolumns, hcolumn, href⟩
  · rintro ⟨columns, column, hcolumns, hcolumn, href⟩
    exact ⟨column, ⟨columns, hcolumns, hcolumn⟩, href⟩

/-- The way reads the reference of the first hit; the chain reads the first reference of a hit. The
two are one where the first hit has a reference. -/
theorem bind_find?_eq_some {α : Type} {p : α → Bool} {mark : α → Option String} {items : List α}
    {m : String} :
    (items.find? p).bind mark = some m ↔ (items.filter p).findSome? mark = some m ∧
      ∃ a m', items.find? p = some a ∧ mark a = some m' := by
  rw [← List.head?_filter]
  cases items.filter p with
  | nil => simp
  | cons a hits =>
    cases hmark : mark a with
    | none => simp [hmark]
    | some m' => simp [hmark]

/-! ### The way and the chain -/

/-- The way leads where the chain leads if the first key refers to anything, and nowhere if it does
not. So the way is the chain just where a chain that leads somewhere begins at the first key. -/
theorem keyPath_leadsTo_iff {table : Element} (h : DistinctKeys table) :
    (∀ ref, (keyPath table).column? = some ref ↔ LeadsTo table ref ∧ FirstKeyRefers table) ∧
      ((∀ ref, (keyPath table).column? = some ref ↔ LeadsTo table ref) ↔
        ((∃ ref, LeadsTo table ref) → FirstKeyRefers table)) := by
  have hway : ∀ ref, (keyPath table).column? = some ref ↔
      LeadsTo table ref ∧ FirstKeyRefers table := by
    intro ref
    simp only [column?_keyPath_eq_some, keyOfId?_eq_some h, firstColumn?_eq_some,
      Element.descendant?_eq_find?, bind_find?_eq_some]
    constructor
    · rintro ⟨primaryKey, id, key, hprimaryKey, ⟨hid, first, id', hfirst, href'⟩, hkey, columns,
        column, hcolumns, hcolumn, href⟩
      refine ⟨?_, ⟨primaryKey, first, id', hprimaryKey, hfirst, href'⟩⟩
      exact ⟨primaryKey, key, columns, column, id, hprimaryKey, hid, hkey, hcolumns, hcolumn, href⟩
    · rintro ⟨⟨primaryKey, key, columns, column, id, hchain⟩,
        ⟨primaryKey', first, id', hprimaryKey, hfirst, href'⟩⟩
      have hsame : primaryKey' = primaryKey :=
        Option.some.inj (hprimaryKey.symm.trans hchain.declared)
      rw [hsame] at hfirst
      exact ⟨primaryKey, id, key, hchain.declared, ⟨hchain.referred, first, id', hfirst, href'⟩,
        hchain.found, columns, column, hchain.listed, hchain.first, hchain.leads⟩
  refine ⟨hway, ?_⟩
  constructor
  · rintro hsame ⟨ref, hleads⟩
    exact ((hway ref).mp ((hsame ref).mpr hleads)).2
  · intro hfirst ref
    rw [hway]
    exact ⟨fun hleads => hleads.1, fun hleads => ⟨hleads, hfirst ⟨ref, hleads⟩⟩⟩

/-- A key that refers to another one, or to none. -/
def keyElement (attributes : List (String × String)) (children : List Element) : Element :=
  ⟨"Key", attributes, children, ""⟩

/-- A table with two keys, of which the second has a column, and with elements that declare its
primary key. -/
def declaringTable (declaration : List Element) : Element :=
  ⟨"Table", [("Id", "o1")], [⟨"Code", [], [], "t_order"⟩, ⟨"PrimaryKey", [], declaration, ""⟩,
    ⟨"Keys", [], [keyElement [("Id", "o4")] [], keyElement [("Id", "o5")]
      [⟨"Key.Columns", [], [⟨"Column", [("Ref", "o2")], [], ""⟩], ""⟩]], ""⟩,
    ⟨"Columns", [], [⟨"Column", [("Id", "o2")],
      [⟨"Code", [], [], "id"⟩, ⟨"DataType", [], [], "int"⟩], ""⟩], ""⟩], ""⟩

/-- A table whose first key in document order stands in a group of its own. -/
def groupedTable : Element :=
  declaringTable [⟨"Group", [], [keyElement [("Ref", "o5")] []], ""⟩, keyElement [("Ref", "o4")] []]

/-- A table whose first key refers to nothing, while the second one does. -/
def looseTable : Element :=
  declaringTable [keyElement [] [], keyElement [("Ref", "o5")] []]

/-- Where the first key refers to another one, the way is the chain. -/
theorem keyPath_leadsTo_groupedTable :
    DistinctKeys groupedTable ∧
      ∀ ref, (keyPath groupedTable).column? = some ref ↔ LeadsTo groupedTable ref := by
  have hdistinct : DistinctKeys groupedTable := by
    rw [DistinctKeys]
    decide
  have hfirst : FirstKeyRefers groupedTable := ⟨_, _, _, rfl, rfl, rfl⟩
  exact ⟨hdistinct, (keyPath_leadsTo_iff hdistinct).2.mpr fun _ => hfirst⟩

/-- Where the first key refers to nothing, the way breaks off and misses what the chain leads to. -/
theorem keyPath_misses_looseTable :
    DistinctKeys looseTable ∧ LeadsTo looseTable "o2" ∧ (keyPath looseTable).column? = none := by
  refine ⟨?_, ?_, rfl⟩
  · rw [DistinctKeys]
    decide
  · exact ⟨_, _, _, _, _, rfl, rfl, ⟨List.mem_cons_of_mem _ List.mem_cons_self, rfl⟩, rfl, rfl, rfl⟩

end EntityForge.Model
