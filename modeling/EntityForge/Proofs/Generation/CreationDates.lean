import EntityForge.Proofs.Calendar.Gregorian
import EntityForge.Proofs.Java.Imports
import EntityForge.Proofs.Model.Schema

/-!
# Dates of tables

A table says when it was made as a number of seconds since the start of 1970. The number is accepted
if its day lies in a year within reach, and then it is written twice, as a date and a time in UTC:
in the schema and, in another form, in the comment on the class. Both texts read as the same date
and time, and counting the days of the calendar up to that date gives the number of seconds again.
-/

namespace EntityForge.Generation

open Calendar (Civil DayNumber Instant Parts)
open Model (Entity Naming TypeTable)
open Outcome

/-! ### Numbers of seconds -/

/-- The date and the clock in UTC are so many whole seconds from the start of 1970, by the days of
the calendar. -/
structure Counts (p : Parts) (seconds : Int) : Prop where
  /-- There is neither an offset nor a fraction. -/
  whole : p.offset = 0 ∧ p.nanos = 0
  /-- The clock shows a time of a day. -/
  clock : p.hour < 24 ∧ p.minute < 60 ∧ p.second < 60
  /-- The days up to the date and the time on the clock make up the seconds. -/
  counted : ∃ day, DayNumber p.date day ∧
    seconds = 86400 * day + 3600 * p.hour + 60 * p.minute + p.second

/-- The start of a second is the date and the clock that it is written as. -/
theorem counts_parts (seconds : Int) : Counts (Instant.parts ⟨seconds, 0⟩) seconds := by
  refine ⟨⟨rfl, rfl⟩, ?_, seconds / 86400, Calendar.dayNumber_ofDay _, ?_⟩
  · simp only [Instant.parts, Instant.secondOfDay, Calendar.secondsPerDay]
    omega
  · simp only [Instant.parts, Instant.secondOfDay, Calendar.secondsPerDay]
    omega

/-- The numbers within reach, from the first second of the first year to the last one of the last
year. -/
theorem ofSeconds?_eq_some {seconds : Int} {t : Instant} :
    Instant.ofSeconds? seconds = some t ↔
      (-8334601228800 ≤ seconds ∧ seconds ≤ 8210266876799) ∧ t = ⟨seconds, 0⟩ := by
  have hfirst : Civil.toDay ⟨Calendar.firstYear, 1, 1⟩ = -96465292 := by decide
  have hlast : Civil.toDay ⟨Calendar.lastYear + 1, 1, 1⟩ = 95026237 := by decide
  have hvalid := Calendar.isValid_ofDay (seconds / Calendar.secondsPerDay)
  have hlow := Calendar.year_le_iff hvalid Calendar.firstYear
  have hhigh := Calendar.year_le_iff hvalid (Calendar.lastYear + 1)
  rw [Calendar.toDay_ofDay, hfirst] at hlow
  rw [Calendar.toDay_ofDay, hlast] at hhigh
  have hrange : Instant.inRange ⟨seconds, 0⟩ = true ↔
      -8334601228800 ≤ seconds ∧ seconds ≤ 8210266876799 := by
    have hdate : Instant.date ⟨seconds, 0⟩ = Civil.ofDay (seconds / Calendar.secondsPerDay) := rfl
    rw [Instant.inRange_iff, hdate, hlow, ← Int.lt_add_one_iff (b := Calendar.lastYear), ← not_le,
      hhigh, Calendar.secondsPerDay]
    omega
  rw [Instant.ofSeconds?, Option.ite_none_right_eq_some, hrange, Option.some.injEq, eq_comm (a := t)]

/-- A text is accepted as a date if it is a whole number within reach. -/
theorem creationDate?_eq_some {text : String} {t : Instant} :
    Model.creationDate? text = some t ↔ ∃ seconds, Text.signed64? text = some seconds ∧
      (-8334601228800 ≤ seconds ∧ seconds ≤ 8210266876799) ∧ t = ⟨seconds, 0⟩ := by
  rw [Model.creationDate?, Option.bind_eq_some_iff]
  simp only [ofSeconds?_eq_some]

/-! ### Texts -/

/-- A schema and the comment on a class show a date and a time of an entity. -/
structure Shows (e : Entity) (p : Parts) : Prop where
  /-- In a schema of the entity and any others its member for the date reads as the date and
  time. -/
  schema : ∃ stamp, Parts.read stamp = .ok p ∧
    e.members.lookup "createDate" = some (.ofString stamp) ∧
    ∀ before after, Json.read (Model.schemaText (before ++ e :: after)) =
      (.ofList (before.map Entity.toValue ++ .ofMembers e.members :: after.map Entity.toValue), true)
  /-- In a class of any style the comment on the class ends in a line for the date that reads, in
  UTC, as the date and time. -/
  comment : ∃ plain, Parts.read (plain ++ "Z") = .ok p ∧
    [" * @date " ++ plain, " */"] <:+ Java.classComment e ∧
    ∀ storage o, o.templateFile = none → ∃ before after, renderEntity storage o e =
      .ok (Java.textOf (before ++ Java.classComment e ++ after))

theorem lookup_createDate {e : Entity} {t : Instant} (h : e.createDate = some t) :
    e.members.lookup "createDate" = some (.ofString t.toText) := by
  rw [Entity.members, h]
  rfl

/-- A block with more lines behind its table ends in the last of them. -/
theorem suffix_block (front : List String) {rest : List String} {line : String}
    (h : [line] <:+ rest) :
    [line, " */"] <:+ front ++ (if rest.isEmpty then [] else " *" :: rest) ++ [" */"] := by
  obtain ⟨before, rfl⟩ := h
  refine ⟨front ++ " *" :: before, ?_⟩
  rw [if_neg (by simp)]
  simp

/-- The comment on the class of an entity with a date ends in a line for it. -/
theorem suffix_classComment {e : Entity} {t : Instant} (h : e.createDate = some t) :
    [" * @date " ++ t.toPlainText, " */"] <:+ Java.classComment e := by
  refine suffix_block _ ?_
  rw [h]
  exact List.suffix_append _ _

/-- The comment on a class is part of its lines. -/
theorem infix_classLines (style : Java.Style) (package : String) (e : Entity) :
    Java.classComment e <:+: Java.classLines style package e := by
  have hhead : Java.linesBeforeFields style package e <+: Java.classLines style package e :=
    ((List.prefix_append _ _).trans (List.prefix_append _ _)).trans (List.prefix_append _ _)
  have hcomment : Java.classComment e <:+: Java.linesBeforeFields style package e := by
    rw [Java.linesBeforeFields, List.append_assoc _ (Java.classAnnotations style e)]
    exact List.infix_append _ _ _
  exact hcomment.trans hhead.isInfix

theorem shows_parts {e : Entity} {seconds : Int} (h : e.createDate = some ⟨seconds, 0⟩)
    (hproper : Instant.Proper ⟨seconds, 0⟩) : Shows e (Instant.parts ⟨seconds, 0⟩) := by
  constructor
  · refine ⟨_, Instant.read_toText hproper, lookup_createDate h, fun before after => ?_⟩
    rw [Model.read_schemaText, List.map_append, List.map_cons]
    rfl
  · refine ⟨_, Instant.read_toPlainText hproper, suffix_classComment h, fun storage o hstyle => ?_⟩
    obtain ⟨before, after, hlines⟩ := infix_classLines o.style o.package e
    exact ⟨before, after, by rw [Java.renderEntity_of_style hstyle, hlines]⟩

/-- The date of a table that gives an entity is a whole number of seconds within reach. The schema
and the comment on the class of any style show the same date and time, which is that number of
seconds from the start of 1970 by the days of the calendar. -/
theorem shows_of_entityOfTable {naming : Naming} {types : TypeTable} {table : Xml.Element}
    {e : Entity} {text : String} (h : Model.entityOfTable naming types table = .ok e)
    (htext : Model.optionalText? table "CreationDate" = some text) :
    ∃ seconds p, Text.signed64? text = some seconds ∧
      (-8334601228800 ≤ seconds ∧ seconds ≤ 8210266876799) ∧ Shows e p ∧ Counts p seconds := by
  obtain ⟨code, -, -, -, -, -, hdate, -⟩ := (Model.entityOfTable_eq_ok.mp h).code
  simp only [Model.readOptional, htext] at hdate
  obtain ⟨t, ht, hcreated⟩ := map_eq_ok.mp hdate
  obtain ⟨seconds, hnumber, hrange, rfl⟩ := creationDate?_eq_some.mp (Model.require_eq_ok.mp ht)
  have hproper := Instant.proper_of_ofSeconds? (ofSeconds?_eq_some.mpr ⟨hrange, rfl⟩)
  exact ⟨seconds, _, hnumber, hrange, shows_parts hcreated.symm hproper, counts_parts seconds⟩

/-- A table that was made at a moment. -/
def datedTable (text : String) : Xml.Element :=
  ⟨"Table", [("Id", "o1")], [⟨"Code", [], [], "t_order"⟩, ⟨"CreationDate", [], [], text⟩,
    ⟨"Columns", [], [], ""⟩], ""⟩

/-- The first second of the first year and the last one of the last year are within reach, and so is
the last second before 1970. -/
theorem shows_datedTable :
    (∃ e p, Model.entityOfTable {} .standard (datedTable "-8334601228800") = .ok e ∧
      Shows e p ∧ Counts p (-8334601228800)) ∧
    (∃ e p, Model.entityOfTable {} .standard (datedTable "-1") = .ok e ∧
      Shows e p ∧ Counts p (-1)) ∧
    ∃ e p, Model.entityOfTable {} .standard (datedTable "8210266876799") = .ok e ∧
      Shows e p ∧ Counts p 8210266876799 := by
  have happly : ∀ {text : String} {seconds : Int},
      (Model.entityOfTable {} .standard (datedTable text)).isOk = true →
      Model.optionalText? (datedTable text) "CreationDate" = some text →
      Text.signed64? text = some seconds →
      ∃ e p, Model.entityOfTable {} .standard (datedTable text) = .ok e ∧ Shows e p ∧
        Counts p seconds := by
    intro text seconds hok htext hnumber
    cases he : Model.entityOfTable {} .standard (datedTable text) with
    | error error =>
      rw [he] at hok
      cases hok
    | ok e =>
      obtain ⟨seconds', p, hnumber', -, hshows, hcounts⟩ := shows_of_entityOfTable he htext
      rw [hnumber, Option.some.injEq] at hnumber'
      exact ⟨e, p, rfl, hshows, hnumber' ▸ hcounts⟩
  exact ⟨happly (by decide +kernel) (by decide +kernel) (by decide +kernel),
    happly (by decide +kernel) (by decide +kernel) (by decide +kernel),
    happly (by decide +kernel) (by decide +kernel) (by decide +kernel)⟩

end EntityForge.Generation
