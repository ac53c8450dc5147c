import EntityForge.Proofs.Java.Accessors
import EntityForge.Proofs.Model.CamelForms

/-!
# Columns of one field name

Two columns of a table that have the same words, however these are written and wherever underscores
stand between them, get one field name, and a generation refuses them. As long as every word begins
with a letter, these are the only columns it refuses: names with other words have other field forms.
Columns that are nothing but underscores have no words, so they have the same ones; but each of them
keeps its name as that of the field, and no two of them clash unless they are one name.
-/

namespace EntityForge.Generation

open Model (Field Lettered Naming SameWords loweredWords lowerCamel upperCamel)
open Text (Ascii)

/-- Fields that are named by their columns do not clash just where no two columns have one field
name. -/
theorem fieldClash?_eq_none_iff_fieldName {fields : List Field}
    (h : ∀ f ∈ fields, f.name = Naming.fieldName f.colName) :
    fieldClash? [] fields = none ↔
      fields.Pairwise fun f g => Naming.fieldName f.colName ≠ Naming.fieldName g.colName := by
  rw [fieldClash?_eq_none, List.map_congr_left h, List.Nodup, List.pairwise_map]
  simp

/-- The camel forms of a name depend on its words only, are empty where there is none, and are the
words one after another, if case is ignored. Where all words begin with letters, either form has
them all: names of one form have the same words. So columns whose words begin with letters are
refused just where two of them have the same words, and are the same if they have none. -/
theorem fieldClash?_eq_none_iff_sameWords :
    (∀ a : String, Ascii a.toList →
      (∀ b : String, Ascii b.toList → loweredWords a = loweredWords b →
        upperCamel a = upperCamel b ∧ lowerCamel a = lowerCamel b) ∧
      (upperCamel a = "" ↔ loweredWords a = []) ∧ (lowerCamel a = "" ↔ loweredWords a = []) ∧
      (upperCamel a).toList.map Char.toLower = (loweredWords a).flatten ∧
      (lowerCamel a).toList.map Char.toLower = (loweredWords a).flatten) ∧
    (∀ a b : String, Lettered a → Lettered b →
      (lowerCamel a = lowerCamel b ↔ loweredWords a = loweredWords b) ∧
      (upperCamel a = upperCamel b ↔ loweredWords a = loweredWords b)) ∧
    (∀ naming text entities, Model.loadText naming text = .ok entities → ∀ e ∈ entities,
      ∀ f ∈ e.fields, f.name = Naming.fieldName f.colName) ∧
    ∀ fields : List Field, (∀ f ∈ fields, f.name = Naming.fieldName f.colName) →
      (∀ f ∈ fields, Lettered f.colName) →
      (fieldClash? [] fields = none ↔
        fields.Pairwise fun f g => ¬ SameWords f.colName g.colName) := by
  refine ⟨fun a ha => ?_, fun a b ha hb => ?_, fun naming text entities hload e he => ?_,
    fun fields hnamed hlettered => ?_⟩
  · have hupper := Model.map_toLower_upperCamel ha
    have hlower := Model.map_toLower_lowerCamel ha
    refine ⟨fun b hb h => ?_, Model.eq_empty_iff_of_words ha hupper,
      Model.eq_empty_iff_of_words ha hlower, hupper, hlower⟩
    exact ⟨Model.upperCamel_eq_of_words ha hb h, Model.lowerCamel_eq_of_words ha hb h⟩
  · exact ⟨Model.lowerCamel_inj_iff ha hb, Model.upperCamel_inj_iff ha hb⟩
  · exact Java.name_of_loadText hload he
  · rw [fieldClash?_eq_none_iff_fieldName hnamed]
    refine List.Pairwise.iff_of_mem fun {f g} hf hg => ?_
    exact not_congr (Model.fieldName_inj_iff (hlettered f hf) (hlettered g hg))

/-- A column of other case and with more underscores clashes, one that is cut into other words does
not. -/
theorem fieldClash?_orderId :
    upperCamel "order_id" = upperCamel "_ORDER__Id" ∧ lowerCamel "order_id" ≠ lowerCamel "orderid" ∧
      fieldClash? [] (["order_id", "_ORDER__Id"].map (Java.pairedField "o2")) ≠ none ∧
      fieldClash? [] (["order_id", "orderid", "_"].map (Java.pairedField "o2")) = none := by
  obtain ⟨hforms, hinj, -, hclash⟩ := fieldClash?_eq_none_iff_sameWords
  have horder : Lettered "order_id" := by decide +kernel
  have hupper : Lettered "_ORDER__Id" := by decide +kernel
  have hjoined : Lettered "orderid" := by decide +kernel
  refine ⟨?_, ?_, ?_, ?_⟩
  · obtain ⟨hwords, -⟩ := hforms _ horder.ascii
    exact (hwords _ hupper.ascii (by decide +kernel)).1
  · exact mt (hinj _ _ horder hjoined).1.mp (by decide +kernel)
  · rw [ne_eq, hclash _ (List.forall_mem_map.mpr fun _ _ => rfl) (by decide +kernel)]
    decide +kernel
  · rw [hclash _ (List.forall_mem_map.mpr fun _ _ => rfl) (by decide +kernel)]
    decide +kernel

/-- Columns without words are not refused: each keeps its name as that of the field. -/
theorem fieldClash?_underscores :
    ¬ ∀ f g : Field, f.name = Naming.fieldName f.colName → g.name = Naming.fieldName g.colName →
      Lettered f.colName → Lettered g.colName →
      (fieldClash? [] [f, g] ≠ none ↔ loweredWords f.colName = loweredWords g.colName) := by
  intro h
  have hiff := h (Java.pairedField "o2" "_") (Java.pairedField "o3" "__") rfl rfl
    (by decide +kernel) (by decide +kernel)
  have hnone : fieldClash? [] [Java.pairedField "o2" "_", Java.pairedField "o3" "__"] = none := by
    decide +kernel
  exact hiff.mpr (by decide +kernel) hnone

end EntityForge.Generation
