import EntityForge.Json.Decode
import EntityForge.Proofs.Json.Values
import EntityForge.Proofs.Outcome
import Mathlib.Data.List.Nodup

/-!
# Records read back

An object that has the members of a record, in their order and each with a value that passes the
check of the member, gives the record its values as they are. What a rule decodes passes the check
of a member with that rule.
-/

namespace EntityForge.Json

open Outcome

variable {α : Type}

/-! ### Rules -/

theorem check_required {name : String} {decode : Value → Decoded α} {v : Value} {a : α}
    (h : decode v = .ok a) : (Member.required name decode).check v = .ok () := by
  simp only [Member.required, h, Except.map]

theorem check_optional {name : String} {decode : Value → Decoded α} {v : Value} {a : Option α}
    (h : v.asOption decode = .ok a) : (Member.optional name decode).check v = .ok () := by
  simp only [Member.optional, h, Except.map]

/-- What is absent is decoded from null, and what is there from its value. -/
theorem asOption_ofOption {decode : Value → Decoded α} {encode : α → Value} {a : Option α}
    (h : ∀ x ∈ a, decode (encode x) = .ok x) (hnull : ∀ x, encode x ≠ .null) :
    (Value.ofOption (a.map encode)).asOption decode = .ok a := by
  cases a with
  | none => rfl
  | some x =>
    rw [Option.map_some, Value.ofOption, Option.getD_some, Value.asOption, h x rfl]
    · rfl
    · exact hnull x

/-- A list of values is decoded by decoding each. -/
theorem asList_ofList_map {β : Type} {decode : Value → Decoded α} {encode : β → Value}
    {bs : List β} {as : List α} (h : List.Forall₂ (fun b a => decode (encode b) = .ok a) bs as) :
    (Value.ofList (bs.map encode)).asList decode = .ok as := by
  have hitems : (bs.map encode).mapM decode = .ok as :=
    mapM_eq_ok.mpr (List.forall₂_map_left_iff.mpr h)
  rw [Value.ofList, Value.asList, hitems, ok_bind]
  rfl

/-! ### Members -/

/-- The value of a name is that of the first member with the name. -/
theorem valueOf_cons (name : String) (v : String × Value) (values : List (String × Value)) :
    valueOf (v :: values) name = if name == v.1 then v.2 else valueOf values name := by
  rw [valueOf, List.lookup_cons]
  cases name == v.1 <;> rfl

/-- In a list of items with different keys, the item of a key is the first with that key. -/
theorem find?_of_nodup {κ : Type} [BEq κ] [LawfulBEq κ] {key : α → κ} {items : List α}
    (h : (items.map key).Nodup) {a : α} (ha : a ∈ items) :
    items.find? (key · == key a) = some a := by
  induction items with
  | nil => cases ha
  | cons b rest ih =>
    rw [List.map_cons, List.nodup_cons] at h
    rcases List.mem_cons.mp ha with rfl | ha
    · rw [List.find?_cons_of_pos (by simp)]
    · have hne : key b ≠ key a := fun heq => h.1 (heq ▸ List.mem_map_of_mem ha)
      rw [List.find?_cons_of_neg (by simpa using hne), ih h.2 ha]

namespace Record

/-- The values are those of the members of a record, by name and in order, and pass the checks. -/
def Fits (r : Record) (values : List (String × Value)) : Prop :=
  List.Forall₂ (fun m v => v.1 = m.name ∧ m.check v.2 = .ok ()) r.members values

variable {r : Record} {values : List (String × Value)}

/-- Members of an object that a record has, each once, pass the checks of the record. -/
theorem checkMembers_eq_ok (hnames : (values.map (·.1)).Nodup)
    (h : ∀ v ∈ values, ∃ m, r.members.find? (·.name == v.1) = some m ∧ m.check v.2 = .ok ())
    {seen : List String} (hseen : ∀ v ∈ values, v.1 ∉ seen) :
    r.checkMembers seen (values.map withKey) = .ok () := by
  induction values generalizing seen with
  | nil => rfl
  | cons v rest ih =>
    rw [List.map_cons, List.nodup_cons] at hnames
    obtain ⟨m, hfind, hcheck⟩ := h v List.mem_cons_self
    have hfresh : seen.contains v.1 = false := by
      simpa using hseen v List.mem_cons_self
    have hrest : ∀ w ∈ rest, w.1 ∉ v.1 :: seen := by
      intro w hw hmem
      rcases List.mem_cons.mp hmem with heq | hmem
      · exact hnames.1 (heq ▸ List.mem_map_of_mem hw)
      · exact hseen w (List.mem_cons_of_mem v hw) hmem
    rw [List.map_cons, checkMembers, hfind]
    simp only [hfresh, Bool.false_eq_true, if_false, hcheck, ok_bind]
    exact ih hnames.2 (fun w hw => h w (List.mem_cons_of_mem v hw)) hrest

/-- The values of members are collected from the object that has them. -/
theorem collect_eq_ok {object : List (Option String × Value)} {members : List Member}
    (hnames : values.map (·.1) = members.map (·.name))
    (hfind : ∀ v ∈ values, object.find? (·.1 == some v.1) = some (withKey v)) :
    collect object members = .ok values := by
  induction members generalizing values with
  | nil => rw [List.map_eq_nil_iff.mp hnames, collect]
  | cons m members ih =>
    obtain ⟨v, rest, rfl, hname, hrest⟩ := List.map_eq_cons_iff.mp hnames
    have hfirst : v.1 = m.name := hname
    have hv : object.find? (·.1 == some m.name) = some (withKey v) :=
      hfirst ▸ hfind v List.mem_cons_self
    rw [collect, hv]
    simp only [pure_bind, ih hrest fun w hw => hfind w (List.mem_cons_of_mem v hw), ok_bind,
      ← hfirst]
    rfl

theorem Fits.names_eq (h : r.Fits values) : values.map (·.1) = r.members.map (·.name) := by
  rw [Fits] at h
  generalize r.members = members at h
  induction h with
  | nil => rfl
  | cons hhead _ ih => rw [List.map_cons, List.map_cons, hhead.1, ih]

/-- An object with the members of a record gives their values. -/
theorem decode_ofMembers (origin : Origin) (hnames : (r.members.map (·.name)).Nodup)
    (h : r.Fits values) : r.decode origin (.ofMembers values) = .ok values := by
  have hkeys : (values.map (·.1)).Nodup := h.names_eq ▸ hnames
  have hcheck : r.checkMembers [] (values.map withKey) = .ok () := by
    refine checkMembers_eq_ok hkeys (fun v hv => ?_) fun _ _ => List.not_mem_nil
    obtain ⟨m, hm, hname, hcheck⟩ := exists_left_of_forall₂ h hv
    exact ⟨m, hname ▸ find?_of_nodup hnames hm, hcheck⟩
  have hcollect : collect (values.map withKey) r.members = .ok values := by
    refine collect_eq_ok h.names_eq fun v hv => ?_
    refine @find?_of_nodup _ _ _ _ (·.1) (values.map withKey) ?_ _ (List.mem_map_of_mem hv)
    have hsome : (values.map withKey).map (·.1) = (values.map (·.1)).map some := by
      rw [List.map_map, List.map_map]
      rfl
    rw [hsome]
    exact (List.nodup_map_iff (Option.some_injective _)).mpr hkeys
  change (do
    r.checkMembers [] (values.map withKey)
    collect (values.map withKey) r.members) = _
  rw [hcheck, ok_bind, hcollect]

end Record

end EntityForge.Json
