import EntityForge.Calendar.Civil
import Mathlib.Tactic.IntervalCases
import Mathlib.Tactic.SplitIfs

/-!
# Numbers of days

The date of a number exists in the calendar and has that number. Both facts come down to one about
an era of four hundred years that begin in March: the year that is computed for a day of the era is
the one that the day lies in, the last day of every leap year included.
-/

namespace EntityForge.Calendar

/-! ### Eras -/

/-- The year of an era that a day of the era lies in. -/
def yearOfEra (day : Int) : Int :=
  (day - day / 1460 + day / 36524 - day / 146096) / 365

/-- The first day of a year of an era. -/
def firstDay (year : Int) : Int :=
  365 * year + year / 4 - year / 100

/-- Whether a year of an era ends in a leap day, so that the civil year after it is a leap year. -/
def EndsInLeapDay (year : Int) : Prop :=
  year % 4 = 3 ∧ (year % 100 ≠ 99 ∨ year = 399)

/-- The centuries of an era have equal lengths but for its last day. -/
theorem yearOfEra_div_100 {day : Int} (h : 0 ≤ day) (h' : day < 146096) :
    yearOfEra day / 100 = day / 36524 := by
  have hlast : day / 146096 = 0 := by omega
  rw [yearOfEra, hlast]
  generalize hcentury : day / 36524 = century
  have hlow : 0 ≤ century := by omega
  have hhigh : century ≤ 3 := by omega
  interval_cases century <;> omega

/-- A day lies in the year that is computed for it, as one of its 365 days or as its leap day. -/
theorem yearOfEra_spec {day : Int} (h : 0 ≤ day) (h' : day < 146097) :
    0 ≤ yearOfEra day ∧ yearOfEra day < 400 ∧ firstDay (yearOfEra day) ≤ day ∧
      (day ≤ firstDay (yearOfEra day) + 364 ∨
        day = firstDay (yearOfEra day) + 365 ∧ EndsInLeapDay (yearOfEra day)) := by
  by_cases hlast : day = 146096
  · subst hlast
    simp only [yearOfEra, firstDay, EndsInLeapDay]
    omega
  · have hdiv := yearOfEra_div_100 h (by omega)
    generalize hyear : yearOfEra day = year at *
    rw [yearOfEra, show day / 146096 = 0 by omega] at hyear
    simp only [firstDay, EndsInLeapDay, hdiv]
    generalize hcentury : day / 36524 = century at *
    have hlow : 0 ≤ century := by omega
    have hhigh : century ≤ 3 := by omega
    interval_cases century <;> omega

/-! ### Dates -/

/-- A date in a year that begins in March. -/
structure MarchDate where
  /-- The era. -/
  era : Int
  /-- The year of the era. -/
  year : Int
  /-- The month, from zero for March. -/
  month : Int
  /-- The day of the month, from one. -/
  day : Int

namespace MarchDate

/-- The day of the year, from zero. -/
def dayOfYear (d : MarchDate) : Int :=
  (153 * d.month + 2) / 5 + d.day - 1

/-- The number of days since the first era began. -/
def number (d : MarchDate) : Int :=
  d.era * 146097 + firstDay d.year + d.dayOfYear

/-- The date with years that begin in January. -/
def civil (d : MarchDate) : Civil :=
  ⟨d.year + d.era * 400 + if d.month < 10 then 0 else 1,
    (if d.month < 10 then d.month + 3 else d.month - 9).toNat, d.day.toNat⟩

/-- A date that exists. -/
structure Exists (d : MarchDate) : Prop where
  /-- The year is one of an era. -/
  year_mem : 0 ≤ d.year ∧ d.year < 400
  /-- The month is one of a year. -/
  month_mem : 0 ≤ d.month ∧ d.month < 12
  /-- The day is at least the first and comes before the next month. -/
  day_mem : 1 ≤ d.day ∧ d.dayOfYear < (153 * (d.month + 1) + 2) / 5
  /-- The day is one of the 365 days of the year, or its leap day. -/
  within : d.dayOfYear < 365 ∨ d.dayOfYear = 365 ∧ EndsInLeapDay d.year

/-- The number of the date. -/
theorem Exists.toDay {d : MarchDate} (h : d.Exists) : d.civil.toDay = d.number - 719468 := by
  obtain ⟨⟨hyear, hyear'⟩, ⟨hmonth, hmonth'⟩, ⟨hday, -⟩, -⟩ := h
  obtain ⟨era, year, month, day⟩ := d
  simp only at hyear hyear' hmonth hmonth' hday
  simp only [Civil.toDay, civil, number, firstDay, dayOfYear]
  have hnat : ((if month < 10 then month + 3 else month - 9).toNat + 9) % 12 = month.toNat := by
    split_ifs <;> omega
  have hmarch : (if (if month < 10 then month + 3 else month - 9).toNat ≤ 2 then
      year + era * 400 + (if month < 10 then 0 else 1) - 1
      else year + era * 400 + if month < 10 then 0 else 1) = year + era * 400 := by
    split_ifs <;> omega
  rw [hmarch, hnat]
  omega

/-- The date exists in the calendar. -/
theorem Exists.isValid {d : MarchDate} (h : d.Exists) : d.civil.isValid = true := by
  obtain ⟨⟨hyear, hyear'⟩, ⟨hmonth, hmonth'⟩, ⟨hday, hnext⟩, hwithin⟩ := h
  obtain ⟨era, year, month, day⟩ := d
  simp only [dayOfYear, EndsInLeapDay] at hyear hyear' hmonth hmonth' hday hnext hwithin
  interval_cases month <;>
    simp [Civil.isValid, civil, monthLength, isLeap] <;> omega

end MarchDate

/-- The day of a year of an era that lies so many days after the start of an era, with its month. -/
def MarchDate.ofDay (era day : Int) : MarchDate :=
  let dayOfYear := day - firstDay (yearOfEra day)
  let month := (5 * dayOfYear + 2) / 153
  ⟨era, yearOfEra day, month, dayOfYear - (153 * month + 2) / 5 + 1⟩

theorem MarchDate.dayOfYear_ofDay (era day : Int) :
    (MarchDate.ofDay era day).dayOfYear = day - firstDay (yearOfEra day) := by
  simp only [dayOfYear, ofDay]
  omega

theorem MarchDate.exists_ofDay (era : Int) {day : Int} (h : 0 ≤ day) (h' : day < 146097) :
    (MarchDate.ofDay era day).Exists := by
  obtain ⟨hlow, hhigh, hfirst, hlength⟩ := yearOfEra_spec h h'
  have hle : day ≤ firstDay (yearOfEra day) + 365 := by
    rcases hlength with hle | ⟨heq, -⟩ <;> omega
  refine ⟨⟨hlow, hhigh⟩, ?_, ?_, ?_⟩
  · simp only [ofDay]
    omega
  · rw [dayOfYear_ofDay]
    simp only [ofDay]
    omega
  · rw [dayOfYear_ofDay]
    exact hlength.imp (fun hle => by omega) fun ⟨heq, hleap⟩ => ⟨by omega, hleap⟩

/-- January and February are the last months of a year that begins in March. -/
theorem civilYear_eq {month : Int} (h : 0 ≤ month) (h' : month < 12) (year : Int) :
    (if (if month < 10 then month + 3 else month - 9) ≤ 2 then year + 1 else year) =
      year + if month < 10 then 0 else 1 := by
  split_ifs <;> omega

theorem civil_ofDay (n : Int) {day : Int} (h : (n + 719468) % 146097 = day) :
    (MarchDate.ofDay ((n + 719468) / 146097) day).civil = Civil.ofDay n := by
  obtain ⟨hmonth, hmonth'⟩ := (MarchDate.exists_ofDay ((n + 719468) / 146097)
    (show 0 ≤ day by omega) (by omega)).month_mem
  rw [MarchDate.civil, ← civilYear_eq hmonth hmonth']
  subst h
  rfl

/-- Every number has a date that exists. -/
theorem exists_marchDate (n : Int) :
    ∃ d : MarchDate, d.Exists ∧ d.number = n + 719468 ∧ d.civil = Civil.ofDay n := by
  have hday : 0 ≤ (n + 719468) % 146097 ∧ (n + 719468) % 146097 < 146097 := by omega
  refine ⟨_, MarchDate.exists_ofDay _ hday.1 hday.2, ?_, civil_ofDay n rfl⟩
  rw [MarchDate.number, MarchDate.dayOfYear_ofDay]
  simp only [MarchDate.ofDay]
  omega

/-- The number of the date of a number is that number. -/
theorem toDay_ofDay (n : Int) : (Civil.ofDay n).toDay = n := by
  obtain ⟨d, hexists, hnumber, hdate⟩ := exists_marchDate n
  rw [← hdate, hexists.toDay, hnumber]
  omega

/-- The date of a number exists in the calendar. -/
theorem isValid_ofDay (n : Int) : (Civil.ofDay n).isValid = true := by
  obtain ⟨d, hexists, -, hdate⟩ := exists_marchDate n
  rw [← hdate]
  exact hexists.isValid

end EntityForge.Calendar
