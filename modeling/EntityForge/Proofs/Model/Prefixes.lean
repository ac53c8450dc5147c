import EntityForge.Proofs.Model.Extraction
import EntityForge.Proofs.Model.Loading
import EntityForge.Proofs.Model.Naming

/-!
# Prefixes of tables

The prefix that tables share is put in front of a code that lacks it and is taken off a code that
has it. The two fit together: a stored name that has been made is not made longer when it is made
again, and the class of a table is the same whether it is named by the code or by the stored name,
unless the code has no word to name it by.

Nothing else depends on the prefix. A document loads under one prefix just where it loads under
another, with the same error if it does not, and the entities differ in no more than the name of the
class and the stored name.
-/

namespace EntityForge.Model

open Outcome
open Xml (Element)

/-! ### Stored names -/

namespace Naming

variable {n : Naming} {code p : String}

theorem sharedPrefix?_eq_some :
    n.sharedPrefix? = some p ↔ Text.trim n.tablePrefix ≠ "" ∧ n.tablePrefix = p := by
  rw [sharedPrefix?]
  split_ifs with hblank
  · simp [hblank]
  · simp [hblank]

theorem tableName_of_prefixed (h : n.sharedPrefix? = some p) (hp : p.toList <+: code.toList) :
    n.tableName code = code := by
  simp [tableName, h, hp]

theorem tableName_of_unprefixed (h : n.sharedPrefix? = some p) (hp : ¬ p.toList <+: code.toList) :
    n.tableName code = p ++ code := by
  simp [tableName, h, hp]

theorem tableName_of_none (h : n.sharedPrefix? = none) : n.tableName code = code := by
  rw [tableName, h]

/-- A stored name is the code, which has the prefix if there is one, or the code with the prefix in
front of it. -/
theorem tableName_cases (n : Naming) (code : String) :
    n.tableName code = code ∧ (∀ p, n.sharedPrefix? = some p → p.toList <+: code.toList) ∨
      ∃ p, n.sharedPrefix? = some p ∧ ¬ p.toList <+: code.toList ∧
        n.tableName code = p ++ code := by
  cases h : n.sharedPrefix? with
  | none => exact .inl ⟨tableName_of_none h, by simp⟩
  | some p =>
    by_cases hp : p.toList <+: code.toList
    · exact .inl ⟨tableName_of_prefixed h hp, by simpa using hp⟩
    · exact .inr ⟨p, rfl, hp, tableName_of_unprefixed h hp⟩

/-- A stored name begins with the prefix. -/
theorem prefix_tableName (h : n.sharedPrefix? = some p) (code : String) :
    p.toList <+: (n.tableName code).toList := by
  rcases tableName_cases n code with ⟨heq, hp⟩ | ⟨p', hp', -, heq⟩
  · rw [heq]
    exact hp p h
  · rw [h] at hp'
    rw [heq, ← Option.some.inj hp', String.toList_append]
    exact List.prefix_append _ _

/-- A stored name ends with the code. -/
theorem suffix_tableName (n : Naming) (code : String) :
    code.toList <:+ (n.tableName code).toList := by
  rcases tableName_cases n code with ⟨heq, -⟩ | ⟨p, -, -, heq⟩
  · exact heq.symm ▸ List.suffix_refl _
  · rw [heq, String.toList_append]
    exact List.suffix_append _ _

/-- The stored name of a stored name is that name. -/
theorem tableName_tableName (n : Naming) (code : String) :
    n.tableName (n.tableName code) = n.tableName code := by
  cases h : n.sharedPrefix? with
  | none => exact tableName_of_none h
  | some p => exact tableName_of_prefixed h (prefix_tableName h code)

/-! ### Class names -/

/-- The prefix that was put in front of a code is taken off again. -/
theorem stripped_append (h : n.sharedPrefix? = some p) (code : String) :
    n.stripped (p ++ code) = code := by
  have hp : p.toList <+: (p ++ code).toList := by
    rw [String.toList_append]
    exact List.prefix_append _ _
  have hdrop : (p ++ code).toList.drop p.length = code.toList := by
    rw [String.toList_append, ← String.length_toList, List.drop_left]
  simp only [stripped, h]
  rw [if_pos (List.isPrefixOf_iff_prefix.mpr hp), hdrop, String.ofList_toList]

theorem stripped_of_unprefixed (h : n.sharedPrefix? = some p) (hp : ¬ p.toList <+: code.toList) :
    n.stripped code = code := by
  simp [stripped, h, hp]

/-- A table has the class name of its stored name, if its code has a word. -/
theorem className_tableName (n : Naming) (h : upperCamel code ≠ "") :
    n.className (n.tableName code) = n.className code := by
  rcases tableName_cases n code with ⟨heq, -⟩ | ⟨p, hp, hnot, heq⟩
  · rw [heq]
  · rw [heq, className, className, stripped_append hp, stripped_of_unprefixed hp hnot,
      orElseName_of_ne h, orElseName_of_ne h]

theorem className_ne_empty (n : Naming) (h : code ≠ "") : n.className code ≠ "" := by
  rw [className, orElseName, orElseName]
  split_ifs with hstripped hwhole
  · exact h
  · exact hwhole
  · exact hstripped

end Naming

/-- A name with another character than underscores has a word. -/
theorem upperCamel_ne_empty {name : String} {c : Char} (hc : c ∈ name.toList) (hne : c ≠ '_') :
    upperCamel name ≠ "" := by
  intro hempty
  obtain ⟨word, hword, -⟩ := List.mem_flatten.mp ((mem_flatten_words hne).mpr hc)
  have hnil : (words name.toList).flatMap capitalized = [] := by
    rw [← String.toList_ofList (l := (words name.toList).flatMap capitalized)]
    exact congrArg String.toList hempty
  exact capitalized_ne_nil (ne_nil_of_mem_words hword) (List.flatMap_eq_nil_iff.mp hnil word hword)

/-- Tables of one stored name have one class name, if their codes have other characters than
underscores. -/
theorem className_eq_of_tableName_eq {n : Naming} {code code' : String}
    (h : n.tableName code = n.tableName code') (hcode : ∃ c ∈ code.toList, c ≠ '_')
    (hcode' : ∃ c ∈ code'.toList, c ≠ '_') : n.className code = n.className code' := by
  obtain ⟨c, hc, hne⟩ := hcode
  obtain ⟨c', hc', hne'⟩ := hcode'
  rw [← n.className_tableName (upperCamel_ne_empty hc hne), h,
    n.className_tableName (upperCamel_ne_empty hc' hne')]

/-- An entity has the names that the code of its table gives. -/
structure Naming.Names (n : Naming) (code : String) (e : Entity) : Prop where
  /-- The name of the class. -/
  name : e.name = n.className code
  /-- The stored name of the table. -/
  tableName : e.tableName = n.tableName code

/-- The entities of a document have the names that the codes of its tables give, in order. -/
theorem names_of_loadText {n : Naming} {text : String} {entities : List Entity}
    (h : loadText n text = .ok entities) :
    ∃ root tables, Xml.parseDocument (withoutMark text) = .ok root ∧ HoldsTables root tables ∧
      List.Forall₂ (fun table e => ∃ code, table.childText? "Code" = some code ∧ n.Names code e)
        tables entities := by
  obtain ⟨root, hroot, hentities⟩ := loadText_eq_ok.mp h
  obtain ⟨tables, htables, hforall⟩ := entitiesOfDocument_eq_ok.mp hentities
  refine ⟨root, tables, hroot, htables, hforall.imp fun table e he => ?_⟩
  obtain ⟨code, -, hcode, -, hname, htableName, -⟩ := he.code
  exact ⟨code, hcode, hname, htableName⟩

/-! ### What does not depend on the prefix -/

/-- Two entities are the same but for the name of the class and the stored name of the table. -/
def Entity.SameButNames (e e' : Entity) : Prop :=
  { e with name := e'.name, tableName := e'.tableName } = e'

variable (n n' : Naming) (types : TypeTable)

theorem entityOfTable_alike (table : Element) :
    Alike Entity.SameButNames (entityOfTable n types table) (entityOfTable n' types table) := by
  rw [entityOfTable, entityOfTable]
  refine .bind _ fun code => .bind _ fun tableId => .bind _ fun createDate => ?_
  refine .bind _ fun columns => .bind _ fun fields => ?_
  exact .ok (by rw [Entity.SameButNames])

theorem entitiesOfDocument_alike (root : Element) :
    Alike (List.Forall₂ Entity.SameButNames) (entitiesOfDocument n types root)
      (entitiesOfDocument n' types root) := by
  rw [entitiesOfDocument, entitiesOfDocument]
  exact .bind _ fun tables => .mapM (entityOfTable_alike n n' types) _

/-- Under two prefixes a text gives the same error, or as many entities, which differ one by one in
no more than the name of the class and the stored name of the table. -/
theorem loadText_alike (text : String) :
    Alike (List.Forall₂ Entity.SameButNames) (loadText n text) (loadText n' text) := by
  rw [loadText, loadText]
  exact .bind _ fun root => .mapError _ (entitiesOfDocument_alike n n' .standard root)

end EntityForge.Model
