import EntityForge.Proofs.Generation.Writing
import EntityForge.Proofs.Model.Prefixes
import EntityForge.Proofs.Storage.Components
import EntityForge.Proofs.Xml.Reading

/-!
# Tables of one stored name

Two tables of a document can have codes that differ in no more than the prefix. They are one table
of the database, and they have one class name, so a generation never writes both of them: the later
one is refused, if the generation comes as far as to it, and nothing is written. Only codes that are
nothing but underscores are not caught. They have no word to name a class by, so each keeps its
whole code as the name.
-/

namespace EntityForge.Generation

open Model (Entity Naming)
open Outcome
open Storage (Path Tree)

/-- What stops a generation at an entity whose class another one has. -/
def clashFailure (e : Entity) : Failure :=
  match fieldClash? [] e.fields with
  | some (first, second) => .refusal (fieldClashMessage e first second)
  | none => .refusal (classClashMessage e)

theorem planOne_of_clash {storage : Tree} {o : Options} {origin : Origin} {before : List Path}
    {e : Entity} (h : o.classPath e.name ∈ before) :
    planOne storage o origin before e = .error (clashFailure e) := by
  have hsame : before.any (o.classPath e.name).same = true :=
    List.any_eq_true.mpr ⟨_, h, Path.same_iff.mpr rfl⟩
  rw [planOne_eq, clashFailure]
  cases fieldClash? [] e.fields with
  | some clash => rfl
  | none => exact if_pos hsame

/-- A plan fails at an entity whose class one before it has, if it does not fail before. -/
theorem plan_of_clash {storage : Tree} {o : Options} {before : List Entity} {e e' : Entity}
    (he : e ∈ before) (hname : e.name = e'.name) (after : List Entity) :
    plan storage o (before ++ e' :: after) =
      plan storage o before >>= fun _ => .error (clashFailure e') := by
  unfold plan
  cases o.validate with
  | error f => rfl
  | ok u =>
    cases o.origin storage with
    | error f => rfl
    | ok origin =>
      simp only [ok_bind, planAll_append, List.append_nil]
      cases hplan : planAll storage o origin [] before with
      | error f => rfl
      | ok planned =>
        have hpaths := map_path_eq (planAll_eq_ok.mp hplan).1
        have hmem : o.classPath e'.name ∈ (planned.map (·.path)).reverse := by
          rw [hpaths, List.mem_reverse, ← hname]
          exact List.mem_map_of_mem he
        rw [ok_bind, ok_bind, planAll, planOne_of_clash hmem]
        rfl

/-- A generation is refused at an entity whose class one before it has, or before, and writes
nothing. -/
theorem writeSources_of_clash (storage : Tree) (o : Options) {before : List Entity} {e e' : Entity}
    (he : e ∈ before) (hname : e.name = e'.name) (after : List Entity) :
    ∃ failure, writeSources storage o (before ++ e' :: after) = (storage, .error failure) ∧
      ((∃ planned, plan storage o before = .ok planned) → failure = clashFailure e') := by
  rw [writeSources, writing, plan_of_clash he hname]
  cases plan storage o before with
  | error f =>
    refine ⟨f, rfl, ?_⟩
    rintro ⟨planned, h⟩
    cases h
  | ok planned => exact ⟨_, rfl, fun _ => rfl⟩

/-- The prefix is put in front of a code once, stays in front of it, and is no part of the class
name. So tables of one stored name have one class name, if their codes are not all underscores, and
the later one is refused by every generation that comes as far as to it; in any case nothing is
written. -/
theorem refused_of_tableName_eq (n : Naming) :
    (∀ code, n.tableName (n.tableName code) = n.tableName code ∧
      code.toList <:+ (n.tableName code).toList ∧
      (Text.trim n.tablePrefix ≠ "" → n.tablePrefix.toList <+: (n.tableName code).toList) ∧
      (Model.upperCamel code ≠ "" → n.className (n.tableName code) = n.className code) ∧
      (code ≠ "" → n.className code ≠ "")) ∧
    (∀ text entities, Model.loadText n text = .ok entities →
      ∃ root tables, Xml.parseDocument (Model.withoutMark text) = .ok root ∧
        Model.HoldsTables root tables ∧
        List.Forall₂ (fun table e => ∃ code, table.childText? "Code" = some code ∧ n.Names code e)
          tables entities) ∧
    ∀ code code' e e', n.Names code e → n.Names code' e' → (∃ c ∈ code.toList, c ≠ '_') →
      (∃ c ∈ code'.toList, c ≠ '_') → e.tableName = e'.tableName →
      e.name = e'.name ∧
      ∀ storage o before after, e ∈ before → ∃ failure,
        writeSources storage o (before ++ e' :: after) = (storage, .error failure) ∧
        ((∃ planned, plan storage o before = .ok planned) → fieldClash? [] e'.fields = none →
          failure = .refusal (classClashMessage e')) := by
  refine ⟨fun code => ⟨n.tableName_tableName code, n.suffix_tableName code, fun hshared => ?_,
    n.className_tableName, n.className_ne_empty⟩, fun text entities => Model.names_of_loadText, ?_⟩
  · exact Naming.prefix_tableName (Naming.sharedPrefix?_eq_some.mpr ⟨hshared, rfl⟩) code
  intro code code' e e' hnames hnames' hcode hcode' htable
  rw [hnames.tableName, hnames'.tableName] at htable
  have hname : e.name = e'.name := by
    rw [hnames.name, hnames'.name]
    exact Model.className_eq_of_tableName_eq htable hcode hcode'
  refine ⟨hname, fun storage o before after he => ?_⟩
  obtain ⟨failure, hwrite, hfailure⟩ := writeSources_of_clash storage o he hname after
  refine ⟨failure, hwrite, fun hplan hfields => ?_⟩
  rw [hfailure hplan, clashFailure, hfields]

/-! ### A table that is there twice -/

/-- A table without columns. -/
def plainTable (id code : String) : Xml.Element :=
  ⟨"Table", [("Id", id)], [⟨"Code", [], [], code⟩, ⟨"Columns", [], [], ""⟩], ""⟩

/-- A document with two tables, whose codes differ in the prefix. -/
def twinDocument : String :=
  String.join ["<Model><Tables><Table Id='o1'><Code>order</Code><Columns/></Table>",
    "<Table Id='o2'><Code>t_order</Code><Columns/></Table></Tables></Model>"]

/-- What the document holds. -/
def twinRoot : Xml.Element :=
  ⟨"Model", [], [⟨"Tables", [], [plainTable "o1" "order", plainTable "o2" "t_order"], ""⟩], ""⟩

/-- The entity of either table. -/
def twin (id : String) : Entity :=
  { bareEntity "Order" with tableName := "t_order", tableId := id }

theorem entityOf_twin {id code : String} (hname : Naming.className ⟨"t_"⟩ code = "Order")
    (htable : Naming.tableName ⟨"t_"⟩ code = "t_order") :
    Model.EntityOf ⟨"t_"⟩ .standard (plainTable id code) (twin id) := by
  refine ⟨rfl, rfl, rfl, rfl, ⟨code, ⟨"Columns", [], [], ""⟩, rfl, rfl, hname.symm, htable.symm,
    rfl, .nil⟩, fun name => ?_⟩
  simp [twin, bareEntity, Model.NameSet.ofList, Model.NameSet.empty]

theorem loadText_twinDocument :
    Model.loadText ⟨"t_"⟩ twinDocument = .ok [twin "o1", twin "o2"] := by
  have hparse : Xml.parseDocument twinDocument = .ok twinRoot := by
    rw [twinDocument, Xml.parseDocument_of_toList String.toList_join (by decide +kernel)]
    decide +kernel
  have hmark : Model.withoutMark twinDocument = twinDocument :=
    Model.withoutMark_join rfl (by decide) _
  refine Model.loadText_eq_ok.mpr ⟨twinRoot, by rw [hmark, hparse], ?_⟩
  refine Model.entitiesOfDocument_eq_ok.mpr ⟨_, ⟨_, rfl, rfl⟩, .cons ?_ (.cons ?_ .nil)⟩
  · exact entityOf_twin (by decide +kernel) (by decide +kernel)
  · exact entityOf_twin (by decide +kernel) (by decide +kernel)

/-- The document is loaded with the names that its two codes give, and the second table is
refused. -/
theorem refused_twinDocument :
    Naming.className ⟨"t_"⟩ (Naming.tableName ⟨"t_"⟩ "order") = Naming.className ⟨"t_"⟩ "order" ∧
      (∃ tables, List.Forall₂ (fun (table : Xml.Element) e => ∃ code,
        table.childText? "Code" = some code ∧ Naming.Names ⟨"t_"⟩ code e) tables
          [twin "o1", twin "o2"]) ∧
      writeSources {} {} [twin "o1", twin "o2"] =
        ({}, .error (.refusal (classClashMessage (twin "o2")))) := by
  obtain ⟨hlaws, hnames, hrefused⟩ := refused_of_tableName_eq ⟨"t_"⟩
  obtain ⟨-, -, -, hclass, -⟩ := hlaws "order"
  obtain ⟨root, tables, -, -, hforall⟩ := hnames _ _ loadText_twinDocument
  refine ⟨hclass (by decide +kernel), ⟨tables, hforall⟩, ?_⟩
  have hfirst : Naming.Names ⟨"t_"⟩ "order" (twin "o1") := by constructor <;> decide +kernel
  have hsecond : Naming.Names ⟨"t_"⟩ "t_order" (twin "o2") := by constructor <;> decide +kernel
  obtain ⟨-, hwrite⟩ := hrefused _ _ _ _ hfirst hsecond ⟨'o', by decide, by decide⟩
    ⟨'t', by decide, by decide⟩ rfl
  obtain ⟨failure, hwrite, hfailure⟩ := hwrite {} {} [twin "o1"] [] List.mem_cons_self
  have hplan : (plan {} {} [twin "o1"]).isOk = true := by decide +kernel
  have hplanned : ∃ planned, plan {} {} [twin "o1"] = .ok planned := by
    cases h : plan {} {} [twin "o1"] with
    | error f => rw [h] at hplan; cases hplan
    | ok planned => exact ⟨planned, rfl⟩
  rw [← hfailure hplanned rfl]
  exact hwrite

end EntityForge.Generation
