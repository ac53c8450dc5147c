import EntityForge.Proofs.Model.Extraction
import EntityForge.Proofs.Xml.Insertion

/-!
# Elements that an extraction does not know

An extraction looks for elements of fifteen names. A subtree that has none of these names can stand
anywhere in a document, as a child of any element: the document gives the same entities, or the same
error. The children of an element, its first child and the first element of a name below it are all
looked up by one of the fifteen names, and what is found in the two documents is looked into in the
same way, so the two extractions never come apart.
-/

namespace EntityForge.Model

open Outcome
open Xml (Element Foreign Inserted Resembles)

/-- The names of elements that an extraction looks for. -/
def elementNames : List String :=
  ["Tables", "Table", "Code", "Comment", "Creator", "CreationDate", "PrimaryKey", "Keys", "Key",
    "Key.Columns", "Columns", "Column", "DataType", "Length", "Column.Mandatory"]

variable {e e' : Element}

theorem readOptional_of_resembles {α : Type} {name : String} (h : Resembles elementNames e e')
    (hname : name ∈ elementNames) (read : String → Option α) (table : String) :
    readOptional read e name table = readOptional read e' name table := by
  rw [readOptional, readOptional, optionalText?, optionalText?, h.childText? hname]

/-- What is made of a mandatory value that is found in both documents is the same. -/
theorem require_bind_of_rel {α : Type} {error : ExtractionError} {o o' : Option Element}
    {f f' : Element → Except ExtractionError α} (h : Option.Rel (Resembles elementNames) o o')
    (hf : ∀ c c', Resembles elementNames c c' → f c = f' c') :
    (require error o >>= f) = (require error o' >>= f') := by
  cases h with
  | none => rfl
  | some hc => exact hf _ _ hc

/-! ### Primary keys -/

/-- The keys that a reference finds in the two documents agree. -/
theorem keyOfId?_of_resembles (h : Resembles elementNames e e') (id : String) :
    Option.Rel (Resembles elementNames) (keyOfId? e id) (keyOfId? e' id) := by
  have hkeys : List.Forall₂ (Resembles elementNames)
      ((e.child? "Keys").elim [] (·.childrenNamed "Key"))
      ((e'.child? "Keys").elim [] (·.childrenNamed "Key")) := by
    have hrel := h.child? (show "Keys" ∈ elementNames by decide)
    generalize e.child? "Keys" = o at hrel ⊢
    generalize e'.child? "Keys" = o' at hrel ⊢
    cases hrel with
    | none => exact .nil
    | some hc => exact hc.childrenNamed (by decide)
  refine rel_getLast? (List.rel_filter (fun key key' hkey => ?_) hkeys)
  show (key.attribute? "Id" == some id) = true ↔ (key'.attribute? "Id" == some id) = true
  rw [hkey.attribute? "Id"]

theorem firstColumn?_of_resembles (h : Resembles elementNames e e') :
    firstColumn? e = firstColumn? e' := by
  rw [firstColumn?, firstColumn?, Option.bind_assoc, Option.bind_assoc]
  refine bind_congr_of_rel (h.child? (by decide)) fun columns columns' hcolumns => ?_
  exact bind_congr_of_rel (hcolumns.child? (by decide)) fun _ _ hcolumn =>
    hcolumn.attribute? "Ref"

/-- The way from a table to its primary key is the same, and it breaks off at the same step. -/
theorem keyPath_of_resembles (h : Resembles elementNames e e') : keyPath e = keyPath e' := by
  rw [keyPath, keyPath]
  have hrel := h.descendant? (show "PrimaryKey" ∈ elementNames by decide)
  generalize e.descendant? "PrimaryKey" = o at hrel ⊢
  generalize e'.descendant? "PrimaryKey" = o' at hrel ⊢
  cases hrel with
  | none => rfl
  | @some primaryKey primaryKey' hprimaryKey =>
    have href : (primaryKey.descendant? "Key").bind (·.attribute? "Ref") =
        (primaryKey'.descendant? "Key").bind (·.attribute? "Ref") :=
      bind_congr_of_rel (hprimaryKey.descendant? (by decide)) fun _ _ hkey =>
        hkey.attribute? "Ref"
    simp only [href]
    cases (primaryKey'.descendant? "Key").bind (·.attribute? "Ref") with
    | none => rfl
    | some id =>
      have hrel := keyOfId?_of_resembles h id
      simp only
      generalize keyOfId? e id = o at hrel ⊢
      generalize keyOfId? e' id = o' at hrel ⊢
      cases hrel with
      | none => rfl
      | some hkey => simp only [firstColumn?_of_resembles hkey]

/-! ### Fields, entities, documents -/

theorem fieldOfColumn_of_resembles (h : Resembles elementNames e e') (types : TypeTable)
    (table : String) (primaryKey : Option String) :
    fieldOfColumn types table primaryKey e = fieldOfColumn types table primaryKey e' := by
  have htext : ∀ name ∈ elementNames, e.childText? name = e'.childText? name :=
    fun name hname => h.childText? hname
  rw [fieldOfColumn, fieldOfColumn, h.attribute? "Id", htext "Code" (by decide),
    htext "DataType" (by decide), htext "Comment" (by decide),
    htext "Column.Mandatory" (by decide), readOptional_of_resembles h (by decide)]

theorem entityOfTable_of_resembles (h : Resembles elementNames e e') (naming : Naming)
    (types : TypeTable) : entityOfTable naming types e = entityOfTable naming types e' := by
  have htext : ∀ name ∈ elementNames, e.childText? name = e'.childText? name :=
    fun name hname => h.childText? hname
  rw [entityOfTable, entityOfTable, h.attribute? "Id", htext "Code" (by decide),
    htext "Comment" (by decide), htext "Creator" (by decide), keyPath_of_resembles h]
  have hname : "CreationDate" ∈ elementNames := by decide
  simp only [readOptional_of_resembles h hname]
  -- only the columns are looked up as elements; all before them are texts and attributes
  refine bind_congr fun code => bind_congr fun tableId => bind_congr fun createDate => ?_
  refine require_bind_of_rel (h.child? (by decide)) fun columns columns' hcolumns => ?_
  rw [mapM_congr_of_forall₂ (hcolumns.childrenNamed (by decide)) fun _ _ hcolumn =>
    fieldOfColumn_of_resembles hcolumn types code (keyPath e').column?]

/-- Documents that agree but for elements of other names give the same entities or the same
error. -/
theorem entitiesOfDocument_of_resembles (h : Resembles elementNames e e') (naming : Naming)
    (types : TypeTable) :
    entitiesOfDocument naming types e = entitiesOfDocument naming types e' := by
  rw [entitiesOfDocument, entitiesOfDocument]
  refine require_bind_of_rel (h.descendant? (by decide)) fun tables tables' htables => ?_
  exact mapM_congr_of_forall₂ (htables.childrenNamed (by decide)) fun _ _ htable =>
    entityOfTable_of_resembles htable naming types

/-- A subtree without any of the fifteen names, put in as a child at any place of a document,
changes neither the entities nor the error. -/
theorem entitiesOfDocument_inserted {s root root' : Element} (naming : Naming) (types : TypeTable)
    (hs : Foreign elementNames s) (h : Inserted s root root') :
    entitiesOfDocument naming types root' = entitiesOfDocument naming types root :=
  (entitiesOfDocument_of_resembles (h.resembles hs) naming types).symm

/-- A remark with a part of its own. -/
def remark : Element :=
  ⟨"Remark", [("Id", "o7")], [⟨"Author", [], [], "t_customer"⟩], "int"⟩

/-- The document of a customer, with a remark at the front of its column. -/
def remarkedDocument : Element :=
  ⟨"Model", [], [⟨"Tables", [], [⟨"Shortcut", [("Id", "o9")], [], ""⟩, ⟨"Table", [("Id", "o1")],
    [⟨"Code", [], [], "t_customer"⟩, ⟨"Columns", [], [⟨"Column", [("Id", "o2")], [remark,
      ⟨"Code", [], [], "name"⟩, ⟨"DataType", [], [], "varchar(20)"⟩], ""⟩], ""⟩], ""⟩], ""⟩], ""⟩

/-- A remark in a column is passed over. -/
theorem entitiesOfDocument_remarked :
    Foreign elementNames remark ∧ Inserted remark customerDocument remarkedDocument ∧
      entitiesOfDocument {} .standard remarkedDocument =
        entitiesOfDocument {} .standard customerDocument := by
  have hforeign : Foreign elementNames remark := by
    rw [Foreign]
    decide
  have hcolumn := Inserted.direct (s := remark) "Column" [("Id", "o2")] []
    [⟨"Code", [], [], "name"⟩, ⟨"DataType", [], [], "varchar(20)"⟩] ""
  have htable := (hcolumn.nested "Columns" [] [] [] "").nested "Table" [("Id", "o1")]
    [⟨"Code", [], [], "t_customer"⟩] [] ""
  have hroot : Inserted remark customerDocument remarkedDocument :=
    (htable.nested "Tables" [] [⟨"Shortcut", [("Id", "o9")], [], ""⟩] [] "").nested
      "Model" [] [] [] ""
  exact ⟨hforeign, hroot, entitiesOfDocument_inserted {} .standard hforeign hroot⟩

end EntityForge.Model
