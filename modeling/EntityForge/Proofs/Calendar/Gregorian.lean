import EntityForge.Proofs.Calendar.Days

/-!
# The calendar day by day

The proleptic Gregorian calendar is a succession of days: each month has its length, a leap year has
one more day in February, and December is followed by January of the next year. Counting from the
first of January 1970, forwards and backwards, gives every date that exists its number, and the
computed number is the counted one. The computed date of a number is the only one that has it.
-/

namespace EntityForge.Calendar

variable {c c' : Civil}

theorem isValid_iff : c.isValid = true ↔
    (1 ≤ c.month ∧ c.month ≤ 12) ∧ 1 ≤ c.day ∧ c.day ≤ monthLength c.year c.month := by
  simp only [Civil.isValid, Bool.and_eq_true, decide_eq_true_eq, and_assoc]

/-! ### Years that begin in March -/

/-- The leap days of a year. -/
def leapDays (year : Int) : Nat := if isLeap year then 1 else 0

/-- The number of days from the first of March of the year zero to that of another year. -/
def yearStart (year : Int) : Int := 365 * year + (year / 4 - year / 100 + year / 400)

/-- From one first of March to the next there are 365 days, and one more in a leap year. -/
theorem yearStart_eq (year : Int) :
    yearStart year = yearStart (year - 1) + 365 + leapDays year := by
  have hleap : isLeap year = true ↔ year % 4 = 0 ∧ (year % 100 ≠ 0 ∨ year % 400 = 0) := by
    simp [isLeap]
  simp only [yearStart, leapDays, hleap]
  split_ifs <;> omega

theorem yearStart_mono {year year' : Int} (h : year ≤ year') : yearStart year ≤ yearStart year' := by
  simp only [yearStart]
  omega

namespace Civil

/-- The year that a date counts as part of if years begin in March. -/
def marchYear (c : Civil) : Int := if c.month ≤ 2 then c.year - 1 else c.year

/-- The day of that year, from zero. -/
def marchDay (c : Civil) : Nat := (153 * ((c.month + 9) % 12) + 2) / 5 + c.day - 1

end Civil

/-- The number of a date is made up of the days of the years before it and of its own year. -/
theorem toDay_eq (c : Civil) : c.toDay = yearStart c.marchYear + c.marchDay - 719468 := by
  rw [Civil.toDay, Civil.marchYear, Civil.marchDay, yearStart]
  generalize (if c.month ≤ 2 then c.year - 1 else c.year) = year
  generalize ((153 * ((c.month + 9) % 12) + 2) / 5 + c.day - 1 : Nat) = day
  omega

/-- January and February are the last days of a year that begins in March, a leap day the very
last. -/
theorem marchDay_cases (h : c.isValid = true) :
    (c.marchYear = c.year - 1 ∧ 306 ≤ c.marchDay ∧ c.marchDay < 365 + leapDays c.year) ∨
      (c.marchYear = c.year ∧ c.marchDay < 306) := by
  obtain ⟨year, month, day⟩ := c
  obtain ⟨⟨hmonth, hmonth'⟩, hday, hday'⟩ := isValid_iff.mp h
  simp only [monthLength] at hmonth hmonth' hday hday'
  simp only [Civil.marchYear, Civil.marchDay, leapDays]
  cases hleap : isLeap year <;> simp only [hleap] at hday' ⊢ <;>
    interval_cases month <;> simp at hday' ⊢ <;> omega

/-- The days of a month come before those of the next one. -/
theorem marchDay_lt (h : c.isValid = true) :
    c.marchDay < (153 * ((c.month + 9) % 12 + 1) + 2) / 5 := by
  obtain ⟨year, month, day⟩ := c
  obtain ⟨⟨hmonth, hmonth'⟩, hday, hday'⟩ := isValid_iff.mp h
  simp only at hmonth hmonth' hday hday'
  simp only [Civil.marchDay]
  interval_cases month <;> simp only [monthLength] at hday' <;> (try split_ifs at hday') <;> omega

/-! ### The day after -/

/-- The day after a date. -/
def Civil.next (c : Civil) : Civil :=
  if c.day < monthLength c.year c.month then ⟨c.year, c.month, c.day + 1⟩
  else if c.month < 12 then ⟨c.year, c.month + 1, 1⟩
  else ⟨c.year + 1, 1, 1⟩

theorem one_le_monthLength (year : Int) (month : Nat) : 1 ≤ monthLength year month := by
  unfold monthLength
  split <;> (try split_ifs) <;> decide

theorem isValid_next (h : c.isValid = true) : c.next.isValid = true := by
  obtain ⟨⟨hmonth, hmonth'⟩, hday, -⟩ := isValid_iff.mp h
  rw [isValid_iff, Civil.next]
  split_ifs with hlast hyear
  · exact ⟨⟨hmonth, hmonth'⟩, Nat.succ_le_succ (Nat.zero_le c.day), hlast⟩
  · exact ⟨⟨Nat.le_add_left 1 c.month, hyear⟩, Nat.le_refl 1, one_le_monthLength _ _⟩
  · exact ⟨⟨Nat.le_refl 1, Nat.le_add_left 1 11⟩, Nat.le_refl 1, one_le_monthLength _ _⟩

/-- The number of the day after a date is the next one. -/
theorem toDay_next (h : c.isValid = true) : c.next.toDay = c.toDay + 1 := by
  obtain ⟨year, month, day⟩ := c
  obtain ⟨⟨hmonth, hmonth'⟩, hday, hday'⟩ := isValid_iff.mp h
  simp only at hmonth hmonth' hday hday'
  rw [Civil.next, toDay_eq, toDay_eq]
  split_ifs with hlast hend
  · simp only [Civil.marchYear, Civil.marchDay]
    omega
  · -- the day is the last of its month, and only behind February does a year end
    have hlength : day = monthLength year month := Nat.le_antisymm hday' (Nat.le_of_not_lt hlast)
    have hyear := yearStart_eq year
    subst hlength
    simp only [leapDays] at hyear
    simp only [Civil.marchYear, Civil.marchDay]
    cases hleap : isLeap year <;> simp only [hleap] at hyear <;>
      interval_cases month <;> simp [monthLength, hleap] at hyear ⊢ <;> omega
  · have hdecember : month = 12 := by
      simp only at hend
      omega
    subst hdecember
    have hlength : day = 31 := Nat.le_antisymm hday' (Nat.le_of_not_lt hlast)
    have hprevious : year + 1 - 1 = year := by omega
    simp only [Civil.marchYear, Civil.marchDay, hlength, hprevious, reduceIte, Nat.reduceLeDiff]
    omega

/-! ### One date for a number -/

/-- The number of a date lies in the year that the date counts as part of. -/
theorem toDay_mem_marchYear (h : c.isValid = true) :
    yearStart c.marchYear ≤ c.toDay + 719468 ∧
      c.toDay + 719468 < yearStart (c.marchYear + 1) := by
  have hyear := yearStart_eq c.year
  have hnext := yearStart_eq (c.year + 1)
  have hprevious : c.year + 1 - 1 = c.year := by omega
  have hsame : c.year - 1 + 1 = c.year := by omega
  rw [hprevious] at hnext
  rw [toDay_eq]
  rcases marchDay_cases h with ⟨hmarch, hlow, hhigh⟩ | ⟨hmarch, hhigh⟩
  · rw [hmarch, hsame]
    omega
  · rw [hmarch]
    omega

/-- Two dates that exist and have one number count as part of one year. -/
theorem marchYear_inj (h : c.isValid = true) (h' : c'.isValid = true) (hday : c.toDay = c'.toDay) :
    c.marchYear = c'.marchYear := by
  obtain ⟨hlow, hhigh⟩ := toDay_mem_marchYear h
  obtain ⟨hlow', hhigh'⟩ := toDay_mem_marchYear h'
  rcases Int.lt_trichotomy c.marchYear c'.marchYear with hlt | heq | hlt
  · have hmono : yearStart (c.marchYear + 1) ≤ yearStart c'.marchYear := yearStart_mono hlt
    omega
  · exact heq
  · have hmono : yearStart (c'.marchYear + 1) ≤ yearStart c.marchYear := yearStart_mono hlt
    omega

/-- Two dates that exist have different numbers. -/
theorem toDay_inj (h : c.isValid = true) (h' : c'.isValid = true) (hday : c.toDay = c'.toDay) :
    c = c' := by
  have hyear := marchYear_inj h h' hday
  have hmarch : c.marchDay = c'.marchDay := by
    rw [toDay_eq, toDay_eq, hyear] at hday
    omega
  have hnext := marchDay_lt h
  have hnext' := marchDay_lt h'
  obtain ⟨⟨hlow, hhigh⟩, hone, -⟩ := isValid_iff.mp h
  obtain ⟨⟨hlow', hhigh'⟩, hone', -⟩ := isValid_iff.mp h'
  rw [Civil.marchDay] at hnext hnext'
  rw [Civil.marchDay, Civil.marchDay] at hmarch
  have hmonth : c.month = c'.month := by omega
  have hdays : c.day = c'.day := by
    rw [hmonth] at hmarch
    omega
  have hyears : c.year = c'.year := by
    rw [Civil.marchYear, Civil.marchYear, hmonth] at hyear
    split_ifs at hyear <;> omega
  obtain ⟨year, month, day⟩ := c
  obtain ⟨year', month', day'⟩ := c'
  simp only at hyears hmonth hdays
  rw [hyears, hmonth, hdays]

/-- The date of the number of a date is that date. -/
theorem ofDay_toDay (h : c.isValid = true) : Civil.ofDay c.toDay = c :=
  toDay_inj (isValid_ofDay c.toDay) h (toDay_ofDay c.toDay)

/-- The dates of a year and of those after it have the numbers from its first day on. -/
theorem year_le_iff (h : c.isValid = true) (year : Int) :
    year ≤ c.year ↔ Civil.toDay ⟨year, 1, 1⟩ ≤ c.toDay := by
  have hfirst : Civil.toDay ⟨year, 1, 1⟩ = yearStart (year - 1) + 306 - 719468 := by
    rw [toDay_eq]
    simp [Civil.marchYear, Civil.marchDay]
  have hyear := yearStart_eq c.year
  have hbounds : yearStart (c.year - 1) + 306 ≤ c.toDay + 719468 ∧
      c.toDay + 719468 < yearStart c.year + 306 := by
    rw [toDay_eq]
    rcases marchDay_cases h with ⟨hmarch, hlow, hhigh⟩ | ⟨hmarch, hhigh⟩
    · rw [hmarch]
      omega
    · rw [hmarch]
      omega
  rw [hfirst]
  constructor
  · intro hle
    have hmono := yearStart_mono (show year - 1 ≤ c.year - 1 by omega)
    omega
  · intro hle
    by_contra hlt
    have hmono := yearStart_mono (show c.year ≤ year - 1 by omega)
    omega

/-! ### Counting days -/

/-- The number of a date, counted day by day from the first of January 1970. -/
inductive DayNumber : Civil → Int → Prop
  /-- The count starts at zero. -/
  | start : DayNumber ⟨1970, 1, 1⟩ 0
  /-- The day after has the next number. -/
  | after {c : Civil} {n : Int} : DayNumber c n → DayNumber c.next (n + 1)
  /-- The day before has the number before. -/
  | before {c : Civil} {n : Int} : c.isValid = true → DayNumber c.next n → DayNumber c (n - 1)

theorem dayNumber_ofDay (n : Int) : DayNumber (Civil.ofDay n) n := by
  induction n using Int.induction_on with
  | zero =>
    have hstart : Civil.ofDay 0 = ⟨1970, 1, 1⟩ := by decide
    rw [hstart]
    exact .start
  | succ n ih =>
    have hnext := toDay_next (isValid_ofDay n)
    rw [toDay_ofDay] at hnext
    rw [← hnext, ofDay_toDay (isValid_next (isValid_ofDay n)), hnext]
    exact .after ih
  | pred n ih =>
    have hnext := toDay_next (isValid_ofDay (-(n : Int) - 1))
    rw [toDay_ofDay, Int.sub_add_cancel] at hnext
    refine .before (isValid_ofDay _) ?_
    rw [← ofDay_toDay (isValid_next (isValid_ofDay (-(n : Int) - 1))), hnext]
    exact ih

/-- The counted number of a date is the computed one, and every date that exists has one. -/
theorem dayNumber_iff {n : Int} : DayNumber c n ↔ c.isValid = true ∧ c.toDay = n := by
  constructor
  · intro h
    induction h with
    | start => decide
    | after _ ih =>
      obtain ⟨hvalid, hday⟩ := ih
      exact ⟨isValid_next hvalid, by rw [toDay_next hvalid, hday]⟩
    | before hvalid _ ih =>
      have hnext := toDay_next hvalid
      exact ⟨hvalid, by omega⟩
  · rintro ⟨hvalid, rfl⟩
    have hday := dayNumber_ofDay c.toDay
    rwa [ofDay_toDay hvalid] at hday

end EntityForge.Calendar
