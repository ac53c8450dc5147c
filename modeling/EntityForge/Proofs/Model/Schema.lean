import EntityForge.Model.Extraction
import EntityForge.Model.Schema
import EntityForge.Proofs.Calendar.Instants
import EntityForge.Proofs.Json.Records
import EntityForge.Proofs.Model.NameSets

/-!
# Schemas read back

A schema is read as the entities that it was written from, whatever texts they have and whatever is
absent, as long as the dates are such as a document or a schema gives. The writing of an entity has
the members of its shape in their order, and each member undoes its own kind of value: a text, an
option, a length, the name of a type, a date, a set of names or a list of fields.
-/

namespace EntityForge.Model

open Calendar (Instant)
open Json (Value Record Origin check_required check_optional valueOf_cons)
open Outcome

/-! ### Values -/

theorem asString_ofString (s : String) : (Value.ofString s).asString = .ok s := rfl

theorem asOption_textValue (s : Option String) :
    (textValue s).asOption Value.asString = .ok s :=
  Json.asOption_ofOption (fun x _ => asString_ofString x) nofun

theorem asWord32_ofNat (n : UInt32) : (Value.ofNat n.toNat).asWord32 = .ok n := by
  have hn : n.toNat < Word.count 32 := n.toNat_lt
  have hword : n.toNat < Word.count 64 := Nat.lt_trans hn (by decide)
  rw [Value.ofNat, Value.asWord32, Json.ofText_toString hword]
  simp only [hn, if_true, UInt32.ofNat_toNat]

theorem asOption_wordValue (n : Option UInt32) :
    (Value.ofOption (n.map fun n => .ofNat n.toNat)).asOption Value.asWord32 = .ok n :=
  Json.asOption_ofOption (fun n _ => asWord32_ofNat n) nofun

theorem asBool_bool (b : Bool) : (Value.bool b).asBool = .ok b := rfl

theorem asChoice_simpleName (origin : Origin) (t : JavaType) :
    (Value.ofString t.simpleName).asChoice origin (JavaType.all.map (·.simpleName)) =
      .ok t.simpleName := by
  cases origin <;> cases t <;> rfl

theorem typeOfValue_simpleName (origin : Origin) (t : JavaType) :
    Field.typeOfValue origin (.ofString t.simpleName) = .ok t := by
  rw [Field.typeOfValue, asChoice_simpleName, ok_bind, JavaType.ofName?_simpleName]
  rfl

theorem asInstant_toText {t : Instant} (h : t.Proper) :
    (Value.ofString t.toText).asInstant = .ok t := by
  rw [Value.ofString, Value.asInstant, Instant.ofText_toText h]
  rfl

theorem asOption_dateValue {date : Option Instant} (h : ∀ t ∈ date, t.Proper) :
    (textValue (date.map (·.toText))).asOption Value.asInstant = .ok date := by
  rw [textValue, Option.map_map]
  exact Json.asOption_ofOption (fun t ht => asInstant_toText (h t ht)) nofun

theorem asList_names (names : List String) :
    (Value.ofList (names.map .ofString)).asList Value.asString = .ok names :=
  Json.asList_ofList_map (List.forall₂_same.mpr fun s _ => asString_ofString s)

theorem ofList_names (s : NameSet) : NameSet.ofList s.names = s :=
  NameSet.ext_of_mem fun _ => NameSet.mem_ofList

/-! ### Fields -/

/-- The names of the members of a field. -/
theorem nodup_fieldNames (origin : Origin) :
    ((Field.record origin).members.map (·.name)).Nodup := by
  cases origin <;> decide

theorem nodup_entityNames (origin : Origin) :
    ((Entity.record origin).members.map (·.name)).Nodup := by
  cases origin <;> decide

namespace Field

/-- The members of a field are those of its shape and pass its checks. -/
theorem fits_members (origin : Origin) (f : Field) : (record origin).Fits f.members := by
  refine .cons ⟨rfl, check_required (asString_ofString f.entityName)⟩ ?_
  refine .cons ⟨rfl, check_required (asString_ofString f.colId)⟩ ?_
  refine .cons ⟨rfl, check_required (asString_ofString f.colName)⟩ ?_
  refine .cons ⟨rfl, check_required (asString_ofString f.name)⟩ ?_
  refine .cons ⟨rfl, check_required (asString_ofString f.colType)⟩ ?_
  refine .cons ⟨rfl, check_required (asChoice_simpleName origin f.javaType)⟩ ?_
  refine .cons ⟨rfl, check_optional (asOption_textValue f.typeQualifiedName)⟩ ?_
  refine .cons ⟨rfl, check_optional (asOption_wordValue f.colLength)⟩ ?_
  refine .cons ⟨rfl, check_optional (asOption_textValue f.comment)⟩ ?_
  refine .cons ⟨rfl, check_required (asBool_bool f.mandatory)⟩ ?_
  exact .cons ⟨rfl, check_required (asBool_bool f.isPrimaryKey)⟩ .nil

/-- A field is read back from its value. -/
theorem ofValue_toValue (origin : Origin) (f : Field) : ofValue origin f.toValue = .ok f := by
  rw [ofValue, toValue, Record.decode_ofMembers origin (nodup_fieldNames origin)
    (f.fits_members origin), ok_bind]
  simp [members, valueOf_cons, asString_ofString, asOption_textValue, asOption_wordValue,
    asBool_bool, typeOfValue_simpleName, ok_bind]

end Field

/-! ### Entities -/

namespace Entity

theorem asList_fields (origin : Origin) (fields : List Field) :
    (Value.ofList (fields.map Field.toValue)).asList (Field.ofValue origin) = .ok fields :=
  Json.asList_ofList_map (List.forall₂_same.mpr fun f _ => Field.ofValue_toValue origin f)

/-- The members of an entity are those of its shape and pass its checks. -/
theorem fits_members (origin : Origin) {e : Entity} (h : ∀ t ∈ e.createDate, t.Proper) :
    (record origin).Fits e.members := by
  refine .cons ⟨rfl, check_required (asString_ofString e.name)⟩ ?_
  refine .cons ⟨rfl, check_required (asString_ofString e.tableName)⟩ ?_
  refine .cons ⟨rfl, check_optional (asOption_textValue e.comment)⟩ ?_
  refine .cons ⟨rfl, check_optional (asOption_textValue e.creator)⟩ ?_
  refine .cons ⟨rfl, check_optional (asOption_dateValue h)⟩ ?_
  refine .cons ⟨rfl, check_required (asString_ofString e.tableId)⟩ ?_
  refine .cons ⟨rfl, check_optional (asOption_textValue e.primaryKeyColId)⟩ ?_
  refine .cons ⟨rfl, check_required (asList_fields origin e.fields)⟩ ?_
  exact .cons ⟨rfl, check_required (asList_names e.dependencies.names)⟩ .nil

/-- An entity is read back from its value. -/
theorem ofValue_toValue (origin : Origin) {e : Entity} (h : ∀ t ∈ e.createDate, t.Proper) :
    ofValue origin e.toValue = .ok e := by
  rw [ofValue, toValue, Record.decode_ofMembers origin (nodup_entityNames origin)
    (fits_members origin h), ok_bind]
  simp [members, valueOf_cons, asString_ofString, asOption_textValue, asOption_dateValue h,
    asList_fields, asList_names, ofList_names, ok_bind]

end Entity

/-! ### Texts -/

theorem writable_textValue (s : Option String) : (textValue s).Writable := by
  cases s with
  | none => exact .null
  | some s => exact .string s

theorem writable_wordValue (n : Option UInt32) :
    (Value.ofOption (n.map fun n => .ofNat n.toNat)).Writable := by
  cases n with
  | none => exact .null
  | some n => exact .number n.toNat

theorem Field.writable_toValue (f : Field) : f.toValue.Writable := by
  refine .object ?_
  simp [members, Value.Writable.string, Value.Writable.bool, writable_textValue, writable_wordValue]

theorem Entity.writable_toValue (e : Entity) : e.toValue.Writable := by
  refine .object ?_
  have hfields : (Value.ofList (e.fields.map Field.toValue)).Writable :=
    .array (List.forall_mem_map.mpr fun f _ => f.writable_toValue)
  have hnames : (Value.ofList (e.dependencies.names.map .ofString)).Writable :=
    .array (List.forall_mem_map.mpr fun s _ => .string s)
  simp [members, Value.Writable.string, writable_textValue, hfields, hnames]

theorem writable_entities (entities : List Entity) :
    (Value.ofList (entities.map Entity.toValue)).Writable :=
  .array (List.forall_mem_map.mpr fun e _ => e.writable_toValue)

/-- The text of some entities is read as a list of their values. -/
theorem read_schemaText (entities : List Entity) :
    Json.read (schemaText entities) = (.ofList (entities.map Entity.toValue), true) :=
  Json.read_pretty (writable_entities entities)

/-- Entities with dates within reach are read back from any text that is read as their values. -/
theorem readSchema_of_read {entities : List Entity} {text : String}
    (h : ∀ e ∈ entities, ∀ t ∈ e.createDate, t.Proper)
    (hread : Json.read text = (.ofList (entities.map Entity.toValue), true)) :
    readSchema text = .ok entities := by
  have hentities : (Value.ofList (entities.map Entity.toValue)).asList (Entity.ofValue .text) =
      .ok entities :=
    Json.asList_ofList_map (List.forall₂_same.mpr fun e he => Entity.ofValue_toValue .text (h e he))
  rw [readSchema, hread]
  simp only [hentities, ok_bind]
  rfl

theorem readSchema_of_proper {entities : List Entity}
    (h : ∀ e ∈ entities, ∀ t ∈ e.createDate, t.Proper) :
    readSchema (schemaText entities) = .ok entities :=
  readSchema_of_read h (read_schemaText entities)

/-- A schema can have a line end behind it. -/
theorem readSchema_line {entities : List Entity}
    (h : ∀ e ∈ entities, ∀ t ∈ e.createDate, t.Proper) :
    readSchema (schemaText entities ++ "\n") = .ok entities :=
  readSchema_of_read h
    (Json.read_pretty_append (writable_entities entities) (by simp [Json.isSpace]))

/-! ### Dates -/

/-- A date that the extraction or the reading of a schema can give. -/
inductive Producible (t : Instant) : Prop
  /-- A document gives it as a number of seconds. -/
  | extracted {text : String} (h : creationDate? text = some t)
  /-- A schema gives it as a date and a time. -/
  | read {text : String} (h : Instant.ofText text = .ok t)

theorem Producible.proper {t : Instant} (h : Producible t) : t.Proper := by
  cases h with
  | extracted h =>
    obtain ⟨seconds, -, hseconds⟩ := Option.bind_eq_some_iff.mp h
    exact Instant.proper_of_ofSeconds? hseconds
  | read h => exact Instant.proper_of_ofText h

/-- The text that any entities are written as is read as the same entities. -/
theorem readSchema_schemaText {entities : List Entity}
    (h : ∀ e ∈ entities, ∀ t ∈ e.createDate, Producible t) :
    readSchema (schemaText entities) = .ok entities :=
  readSchema_of_proper fun e he t ht => (h e he t ht).proper

/-- An entity with characters to escape and a date in a leap second long before the first year. -/
def awkward : Entity where
  name := "Say\"\\"
  tableName := "T_\x00\x1b\n\t\u007f\u2028😀"
  comment := some ""
  creator := none
  createDate := some ⟨-63549279001, 1500000000⟩
  tableId := "o1"
  primaryKeyColId := none
  fields := [⟨"T", "o2", "C", "c", "decimal(9)", .bigDecimal, some "java.math.BigDecimal",
    some 4294967295, none, true, false⟩]
  dependencies := NameSet.ofList ["java.util.Date", "java.math.BigDecimal"]

theorem readSchema_awkward :
    Instant.ofText "-0044-03-15T23:59:60.5+01:30" = .ok ⟨-63549279001, 1500000000⟩ ∧
      readSchema (schemaText [awkward]) = .ok [awkward] := by
  have hread : Instant.ofText "-0044-03-15T23:59:60.5+01:30" =
      .ok ⟨-63549279001, 1500000000⟩ := by decide +kernel
  refine ⟨hread, readSchema_schemaText fun e he t ht => ?_⟩
  rw [List.mem_singleton.mp he] at ht
  exact Option.some.inj ht ▸ .read hread

end EntityForge.Model
