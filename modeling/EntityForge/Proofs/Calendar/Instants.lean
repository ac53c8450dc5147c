import EntityForge.Calendar.Reading
import EntityForge.Proofs.Calendar.Days
import EntityForge.Proofs.Outcome
import EntityForge.Proofs.Text.Numerals

/-!
# Instants read back

An instant within reach is written as a date and a time that denote it, and they are read as that
instant: years with a sign, fractions of any number of digits and leap seconds included. Every
instant that is read from a text or made from a number of seconds is within reach, and its leap
second, if it is one, is the last of a minute.
-/

namespace EntityForge.Calendar

open Outcome
open Text (Ends Numeral ends_nil ends_cons)

/-! ### Digits -/

/-- Digits that are read stand for the number that they give. -/
theorem numeral_of_readDigits {most n : Nat} {cs rest : List Char}
    (h : readDigits most cs = .ok (n, rest)) :
    Numeral n ((cs.take most).takeWhile Char.isDigit) := by
  have hdigits : ∀ c ∈ (cs.take most).takeWhile Char.isDigit, c.isDigit = true :=
    fun c hc => List.mem_takeWhile_imp hc
  unfold readDigits at h
  simp only at h
  split at h
  · cases h
  · cases h
  · next hne =>
    rw [Text.digits?_of_isDigit hne hdigits] at h
    simp only at h
    split_ifs at h
    cases h
    exact ⟨hne, hdigits, rfl⟩

/-- The digits of a number are cut off where they end or at the greatest number of digits. -/
theorem takeWhile_take_append {most n : Nat} {ds rest : List Char} (h : Numeral n ds)
    (hmost : ds.length ≤ most) (hrest : ds.length = most ∨ Ends Char.isDigit rest) :
    ((ds ++ rest).take most).takeWhile Char.isDigit = ds := by
  rw [List.take_append, List.take_of_length_le hmost]
  refine Text.takeWhile_append_of_ends h.isDigit ?_
  rcases hrest with heq | hends
  · rw [heq, Nat.sub_self, List.take_zero]
    exact ends_nil _
  · intro c hc
    refine hends c ?_
    rw [List.head?_take] at hc
    split_ifs at hc
    · cases hc
    · exact hc

/-- The digits of a number are read as the number. -/
theorem readDigits_append {most n : Nat} {ds rest : List Char} (h : Numeral n ds)
    (hn : n < Word.count 63) (hmost : ds.length ≤ most)
    (hrest : ds.length = most ∨ Ends Char.isDigit rest) :
    readDigits most (ds ++ rest) = .ok (n, rest) := by
  unfold readDigits
  simp only [takeWhile_take_append h hmost hrest]
  split
  · next heq =>
    exact absurd (List.append_eq_nil_iff.mp heq).1 h.ne_nil
  · exact absurd rfl h.ne_nil
  · rw [h.digits?]
    simp only
    rw [if_pos hn, List.drop_left]

/-! ### Parts -/

theorem skipBlanks_cons {c : Char} (rest : List Char) (h : Text.isBlank c = false) :
    skipBlanks (c :: rest) = c :: rest := by
  rw [skipBlanks, List.dropWhile_cons_of_neg (by rw [h]; decide)]

theorem isBlank_of_isDigit {c : Char} (h : c.isDigit = true) : Text.isBlank c = false := by
  have hrange : 48 ≤ c.toNat ∧ c.toNat ≤ 57 := by
    simp only [Char.isDigit, Bool.and_eq_true, decide_eq_true_eq] at h
    exact ⟨UInt32.le_iff_toNat_le.mp h.1, UInt32.le_iff_toNat_le.mp h.2⟩
  simp only [Text.isBlank]
  generalize c.toNat = n at hrange
  obtain ⟨hlow, hhigh⟩ := hrange
  interval_cases n <;> rfl

theorem skipBlanks_numeral {n : Nat} {ds : List Char} (h : Numeral n ds) (rest : List Char) :
    skipBlanks (ds ++ rest) = ds ++ rest := by
  obtain ⟨c, ds', rfl, hc⟩ := h.exists_cons
  exact skipBlanks_cons _ (isBlank_of_isDigit hc)

theorem readMark_cons {mark : Char} (rest : List Char) (h : Text.isBlank mark = false) :
    readMark mark (mark :: rest) = .ok rest := by
  rw [readMark, skipBlanks_cons rest h]
  simp

/-- Two digits within bounds are read as their number, whatever follows. -/
theorem readTwo_padded {least greatest n : Nat} (h : least ≤ n ∧ n ≤ greatest) (hn : n < 100)
    (rest : List Char) :
    readTwo least greatest ((Text.padded 2 n).toList ++ rest) = .ok (n, rest) := by
  have hnumeral := Text.numeral_padded 2 n
  have hlength := @Text.length_padded 2 n (by decide) hn
  have hcount : n < Word.count 63 := Nat.lt_trans hn (by decide)
  rw [readTwo, skipBlanks_numeral hnumeral,
    readDigits_append hnumeral hcount (Nat.le_of_eq hlength) (.inl hlength)]
  exact if_pos h

/-- Digits without a sign are read up to the fourth. -/
theorem readSigned_numeral {n : Nat} {ds rest : List Char} (h : Numeral n ds) :
    readSigned (ds ++ rest) =
      (readDigits 4 (ds ++ rest)).map fun (n, rest) => ((n : Int), rest) := by
  obtain ⟨c, ds', rfl, hc⟩ := h.exists_cons
  rw [readSigned, skipBlanks_numeral h, List.cons_append]
  split
  · next heq => exact absurd (List.cons.inj heq).1 (Text.ne_of_isDigit hc rfl)
  · next heq => exact absurd (List.cons.inj heq).1 (Text.ne_of_isDigit hc rfl)
  · rfl

/-- A year is read back in front of a hyphen. -/
theorem readSigned_yearText {year : Int} (h : year.natAbs < Word.count 63) (rest : List Char) :
    readSigned ((yearText year).toList ++ '-' :: rest) = .ok (year, '-' :: rest) := by
  have hnumeral := Text.numeral_padded 4 year.natAbs
  have hread : ∀ most, (Text.padded 4 year.natAbs).toList.length ≤ most →
      readDigits most ((Text.padded 4 year.natAbs).toList ++ '-' :: rest) =
        .ok (year.natAbs, '-' :: rest) :=
    fun most hmost => readDigits_append hnumeral h hmost (.inr (ends_cons rest rfl))
  have hall : (Text.padded 4 year.natAbs).toList.length ≤
      ((Text.padded 4 year.natAbs).toList ++ '-' :: rest).length := by
    rw [List.length_append]
    exact Nat.le_add_right _ _
  unfold yearText
  split_ifs with hplain hneg
  · have hnat : year.toNat = year.natAbs := by omega
    have hyear : (year.natAbs : Int) = year := by omega
    have hlength := @Text.length_padded 4 year.natAbs (by decide) (by omega)
    rw [hnat, readSigned_numeral hnumeral, hread 4 (Nat.le_of_eq hlength)]
    simp only [Except.map, hyear]
  · have hyear : -(year.natAbs : Int) = year := by omega
    rw [String.toList_append, List.append_assoc, show "-".toList = ['-'] from rfl,
      List.singleton_append, readSigned, skipBlanks_cons _ (by rfl)]
    simp only [hread _ hall, Except.map, hyear]
  · have hyear : (year.natAbs : Int) = year := by omega
    rw [String.toList_append, List.append_assoc, show "+".toList = ['+'] from rfl,
      List.singleton_append, readSigned, skipBlanks_cons _ (by rfl)]
    simp only [hread _ hall, Except.map, hyear]

theorem readYear_yearText {year : Int} (h : Word.Signed 31 year) (rest : List Char) :
    readYear ((yearText year).toList ++ '-' :: rest) = .ok (year, '-' :: rest) := by
  have hcount : year.natAbs < Word.count 63 := by
    have h31 : Word.count 31 = 2147483648 := rfl
    have h63 : Word.count 63 = 9223372036854775808 := rfl
    rw [Word.Signed, h31] at h
    omega
  rw [readYear, readSigned_yearText hcount, ok_bind]
  exact if_pos h

/-- A fraction is read back in front of the name of the offset. -/
theorem readFraction_fractionText {nanos : Nat} (h : nanos < 1000000000) :
    readFraction ((fractionText nanos).toList ++ ['Z']) = .ok (nanos, ['Z']) := by
  have hends : Ends Char.isDigit ['Z'] := ends_cons [] rfl
  -- a fraction of some digits counts in as many places
  have hread : ∀ {width n : Nat}, 0 < width → width ≤ 9 → n < 10 ^ width →
      n * 10 ^ (9 - width) = nanos →
      readFraction (("." ++ Text.padded width n).toList ++ ['Z']) = .ok (nanos, ['Z']) := by
    intro width n hpos hwidth hn hnanos
    have hnumeral := Text.numeral_padded width n
    have hlength := Text.length_padded hpos hn
    have hmost : (Text.padded width n).toList.length ≤ 9 := by omega
    have hcount : n < Word.count 63 := by
      calc n < 10 ^ width := hn
        _ ≤ 10 ^ 9 := Nat.pow_le_pow_right (by decide) hwidth
        _ ≤ Word.count 63 := by decide
    rw [String.toList_append, List.append_assoc, show ".".toList = ['.'] from rfl,
      List.singleton_append, readFraction, readDigits_append hnumeral hcount hmost (.inr hends),
      ok_bind, takeWhile_take_append hnumeral hmost (.inr hends), hlength]
    exact congrArg (fun n => Except.ok (n, ['Z'])) hnanos
  unfold fractionText
  split_ifs with hzero hmillis hmicros
  · rw [hzero]
    rfl
  · exact hread (by decide) (by decide) (by omega) (by omega)
  · exact hread (by decide) (by decide) (by omega) (by omega)
  · exact hread (by decide) (by decide) h (by omega)

/-! ### Instants -/

/-- The bounds of the months and days of dates that exist. -/
theorem month_day_mem {c : Civil} (h : c.isValid = true) :
    (1 ≤ c.month ∧ c.month ≤ 12) ∧ 1 ≤ c.day ∧ c.day ≤ 31 := by
  simp only [Civil.isValid, Bool.and_eq_true, decide_eq_true_eq] at h
  obtain ⟨⟨hmonth, hday⟩, hlast⟩ := h
  have hle : monthLength c.year c.month ≤ 31 := by
    unfold monthLength
    split <;> (try split) <;> decide
  exact ⟨hmonth, hday, Nat.le_trans hlast hle⟩

/-- The instant that parts denote if they are within reach. -/
def Parts.moment (p : Parts) : Instant where
  seconds := p.date.toDay * secondsPerDay +
    (p.hour * 3600 + p.minute * 60 + (p.second - p.second / 60) : Nat) - p.offset
  nanos := p.nanos + p.second / 60 * 1000000000

theorem Instant.inRange_iff {t : Instant} :
    t.inRange = true ↔ firstYear ≤ t.date.year ∧ t.date.year ≤ lastYear := by
  rw [inRange, Bool.and_eq_true, decide_eq_true_eq, decide_eq_true_eq]

/-- The parts denote an instant when the date exists, the offset is less than a day, and both the
date and the instant are within reach. -/
theorem Parts.instant_eq_ok {p : Parts} {t : Instant} :
    p.instant = .ok t ↔
      (p.date.isValid ∧ firstYear ≤ p.date.year ∧ p.date.year ≤ lastYear) ∧
      (-(secondsPerDay : Int) < p.offset ∧ p.offset < secondsPerDay) ∧
      t.inRange = true ∧ p.moment = t := by
  have hdef : p.instant =
      if ¬ (p.date.isValid ∧ firstYear ≤ p.date.year ∧ p.date.year ≤ lastYear) then
        .error .outOfRange
      else if ¬ (-(secondsPerDay : Int) < p.offset ∧ p.offset < secondsPerDay) then
        .error .outOfRange
      else if p.moment.inRange then .ok p.moment else .error .impossible := rfl
  rw [hdef]
  split_ifs with hdate hoffset hrange
  · rw [Except.ok.injEq]
    exact ⟨fun h => ⟨hdate, hoffset, h ▸ hrange, h⟩, fun h => h.2.2.2⟩
  · refine ⟨nofun, ?_⟩
    rintro ⟨-, -, hrange', rfl⟩
    exact absurd hrange' hrange
  · exact ⟨nofun, fun h => absurd h.2.1 hoffset⟩
  · exact ⟨nofun, fun h => absurd h.1 hdate⟩

namespace Instant

/-- An instant that a text can denote: its day is within reach, its fraction is less than two
seconds, and a fraction of a second or more, which marks a leap second, stands on the last second of
a minute. -/
structure Proper (t : Instant) : Prop where
  /-- The day is within reach. -/
  inRange : t.inRange = true
  /-- There is at most one leap second. -/
  nanos_lt : t.nanos < 2000000000
  /-- A leap second follows the last second of a minute. -/
  leap : 1000000000 ≤ t.nanos → t.seconds % 60 = 59

/-- The parts that an instant is written as. -/
def parts (t : Instant) : Parts where
  date := t.date
  hour := t.secondOfDay / 3600
  minute := t.secondOfDay / 60 % 60
  second := t.secondOfDay % 60 + t.nanos / 1000000000
  nanos := t.nanos % 1000000000
  offset := 0

theorem secondOfDay_lt (t : Instant) : t.secondOfDay < 86400 := by
  simp only [secondOfDay, secondsPerDay]
  omega

theorem Proper.second_le {t : Instant} (h : t.Proper) : t.parts.second ≤ 60 := by
  have hnanos := h.nanos_lt
  simp only [parts]
  omega

/-- The date and the clock of an instant with a mark between them and something behind. -/
def written (t : Instant) (mark : Char) (tail : List Char) : List Char :=
  (yearText t.date.year).toList ++ '-' :: ((Text.padded 2 t.date.month).toList ++
    '-' :: ((Text.padded 2 t.date.day).toList ++ mark :: ((Text.padded 2 t.parts.hour).toList ++
    ':' :: ((Text.padded 2 t.parts.minute).toList ++
    ':' :: ((Text.padded 2 t.parts.second).toList ++ tail)))))

theorem toList_toText (t : Instant) :
    t.toText.toList = t.written 'T' ((fractionText t.parts.nanos).toList ++ ['Z']) := by
  simp [toText, Civil.text, clockText, parts, written]

/-- The date and time of a comment, with the name of the offset behind them. -/
theorem toList_toPlainText (t : Instant) :
    (t.toPlainText ++ "Z").toList = t.written ' ' ['Z'] := by
  simp [toPlainText, Civil.text, clockText, parts, written]

/-- The parts of an instant that is written are read, whatever mark is between the date and the
clock and whatever fraction is behind them. -/
theorem read_written {t : Instant} (h : t.Proper) {mark : Char} {tail : List Char} {nanos : Nat}
    {text : String} (hmark : ∀ rest, readTimeMark (mark :: rest) = .ok rest)
    (htail : readFraction tail = .ok (nanos, ['Z'])) (htext : text.toList = t.written mark tail) :
    Parts.read text = .ok { t.parts with nanos } := by
  have hdate : t.date.isValid = true := isValid_ofDay (t.seconds / secondsPerDay)
  obtain ⟨hmonth, hday⟩ := month_day_mem hdate
  have hyear : Word.Signed 31 t.date.year := by
    obtain ⟨hfirst, hlast⟩ := inRange_iff.mp h.inRange
    have hcount : Word.count 31 = 2147483648 := rfl
    rw [firstYear] at hfirst
    rw [lastYear] at hlast
    rw [Word.Signed, hcount]
    omega
  have hclock := t.secondOfDay_lt
  have hhour : 0 ≤ t.parts.hour ∧ t.parts.hour ≤ 23 := by
    simp only [parts]
    omega
  have hminute : 0 ≤ t.parts.minute ∧ t.parts.minute ≤ 59 := by
    simp only [parts]
    omega
  have hsecond : 0 ≤ t.parts.second ∧ t.parts.second ≤ 60 := ⟨Nat.zero_le _, h.second_le⟩
  have hzone : readZone (skipBlanks ['Z']) = .ok (0, []) := rfl
  simp only [Parts.read, htext, written, readYear_yearText hyear, ok_bind,
    readMark_cons _ (show Text.isBlank '-' = false from rfl),
    readMark_cons _ (show Text.isBlank ':' = false from rfl),
    readTwo_padded hmonth (show t.date.month < 100 by omega),
    readTwo_padded hday (show t.date.day < 100 by omega), hmark,
    readTwo_padded hhour (show t.parts.hour < 100 by omega),
    readTwo_padded hminute (show t.parts.minute < 100 by omega),
    readTwo_padded hsecond (show t.parts.second < 100 by omega), htail, hzone]
  rfl

/-- The parts of an instant that is written are read. -/
theorem read_toText {t : Instant} (h : t.Proper) : Parts.read t.toText = .ok t.parts := by
  have hnanos : t.parts.nanos < 1000000000 := Nat.mod_lt _ (by decide)
  exact read_written h (fun _ => rfl) (readFraction_fractionText hnanos) t.toList_toText

/-- The date and time of a comment, in UTC, are read as those of the instant without its fraction. -/
theorem read_toPlainText {t : Instant} (h : t.Proper) :
    Parts.read (t.toPlainText ++ "Z") = .ok { t.parts with nanos := 0 } :=
  read_written h (fun _ => rfl) rfl t.toList_toPlainText

/-- The parts of an instant denote it. -/
theorem instant_parts {t : Instant} (h : t.Proper) : t.parts.instant = .ok t := by
  have hoffset : -(secondsPerDay : Int) < 0 ∧ (0 : Int) < secondsPerDay := by decide
  refine Parts.instant_eq_ok.mpr
    ⟨⟨isValid_ofDay _, inRange_iff.mp h.inRange⟩, hoffset, h.inRange, ?_⟩
  have hday : t.date.toDay = t.seconds / secondsPerDay := toDay_ofDay _
  have hnanos := h.nanos_lt
  have hleap := h.leap
  obtain ⟨seconds, nanos⟩ := t
  simp only [Parts.moment, parts, secondOfDay, secondsPerDay] at hnanos hleap hday ⊢
  rw [hday]
  congr 1 <;> omega

/-- An instant that is written is read back. -/
theorem ofText_toText {t : Instant} (h : t.Proper) : ofText t.toText = .ok t := by
  rw [ofText, read_toText h, ok_bind, instant_parts h]

/-- The start of a second within reach is proper. -/
theorem proper_of_ofSeconds? {seconds : Int} {t : Instant} (h : ofSeconds? seconds = some t) :
    t.Proper := by
  rw [ofSeconds?] at h
  simp only [Option.ite_none_right_eq_some, Option.some.injEq] at h
  obtain ⟨hrange, rfl⟩ := h
  exact ⟨hrange, Nat.zero_lt_succ _, nofun⟩

end Instant

/-! ### Bounds of what is read -/

theorem bounds_of_readTwo {least greatest n : Nat} {cs rest : List Char}
    (h : readTwo least greatest cs = .ok (n, rest)) : least ≤ n ∧ n ≤ greatest := by
  obtain ⟨⟨n', rest'⟩, -, hn⟩ := bind_eq_ok.mp h
  simp only at hn
  split_ifs at hn with hbounds
  cases hn
  exact hbounds

theorem lt_of_readFraction {nanos : Nat} {cs rest : List Char}
    (h : readFraction cs = .ok (nanos, rest)) : nanos < 1000000000 := by
  unfold readFraction at h
  split at h
  · next digits =>
    obtain ⟨⟨n, rest'⟩, hn, heq⟩ := bind_eq_ok.mp h
    cases heq
    have hn := (numeral_of_readDigits hn).lt
    have hlength : ((digits.take 9).takeWhile Char.isDigit).length ≤ 9 :=
      Nat.le_trans (List.takeWhile_sublist _).length_le (List.length_take_le 9 digits)
    generalize ((digits.take 9).takeWhile Char.isDigit).length = k at hn hlength
    calc n * 10 ^ (9 - k) < 10 ^ k * 10 ^ (9 - k) :=
          Nat.mul_lt_mul_of_pos_right hn (Nat.pow_pos (by decide))
      _ = 10 ^ 9 := by rw [← Nat.pow_add, Nat.add_sub_of_le hlength]
  · cases h
    decide

/-- An offset is a number of minutes. -/
theorem minutes_of_readClockOffset {n : Nat} {cs rest : List Char}
    (h : readClockOffset cs = .ok (n, rest)) : n % 60 = 0 := by
  obtain ⟨⟨hours, rest'⟩, -, h⟩ := bind_eq_ok.mp h
  obtain ⟨⟨minutes, after⟩, -, h⟩ := bind_eq_ok.mp h
  cases h
  omega

theorem minutes_of_readZone {offset : Int} {cs rest : List Char}
    (h : readZone cs = .ok (offset, rest)) : offset % 60 = 0 := by
  unfold readZone at h
  split_ifs at h
  · cases h
    rfl
  · unfold readOffset at h
    split at h
    · cases h
      rfl
    · cases h
      rfl
    · obtain ⟨⟨n, after⟩, hn, heq⟩ := map_eq_ok.mp h
      cases heq
      have := minutes_of_readClockOffset hn
      omega
    · obtain ⟨⟨n, after⟩, hn, heq⟩ := map_eq_ok.mp h
      cases heq
      have := minutes_of_readClockOffset hn
      omega
    · obtain ⟨⟨n, after⟩, hn, heq⟩ := map_eq_ok.mp h
      cases heq
      have := minutes_of_readClockOffset hn
      omega
    · cases h
    · cases h

/-- What the parts that are read are bounded by. -/
theorem Parts.bounds_of_read {text : String} {p : Parts} (h : Parts.read text = .ok p) :
    p.second ≤ 60 ∧ p.nanos < 1000000000 ∧ p.offset % 60 = 0 := by
  obtain ⟨⟨year, s⟩, -, h⟩ := bind_eq_ok.mp h
  obtain ⟨s, -, h⟩ := bind_eq_ok.mp h
  obtain ⟨⟨month, s⟩, -, h⟩ := bind_eq_ok.mp h
  obtain ⟨s, -, h⟩ := bind_eq_ok.mp h
  obtain ⟨⟨day, s⟩, -, h⟩ := bind_eq_ok.mp h
  obtain ⟨s, -, h⟩ := bind_eq_ok.mp h
  obtain ⟨⟨hour, s⟩, -, h⟩ := bind_eq_ok.mp h
  obtain ⟨s, -, h⟩ := bind_eq_ok.mp h
  obtain ⟨⟨minute, s⟩, -, h⟩ := bind_eq_ok.mp h
  obtain ⟨s, -, h⟩ := bind_eq_ok.mp h
  obtain ⟨⟨second, s⟩, hsecond, h⟩ := bind_eq_ok.mp h
  obtain ⟨⟨nanos, s⟩, hnanos, h⟩ := bind_eq_ok.mp h
  obtain ⟨⟨offset, s⟩, hoffset, h⟩ := bind_eq_ok.mp h
  simp only at h
  split_ifs at h
  cases h
  exact ⟨(bounds_of_readTwo hsecond).2, lt_of_readFraction hnanos, minutes_of_readZone hoffset⟩

/-- An instant that is read is proper: the second that a leap second is read after is the last of
its minute, and an offset moves it by whole minutes. -/
theorem Instant.proper_of_ofText {text : String} {t : Instant} (h : ofText text = .ok t) :
    t.Proper := by
  obtain ⟨p, hp, ht⟩ := bind_eq_ok.mp h
  obtain ⟨hsecond, hnanos, hoffset⟩ := Parts.bounds_of_read hp
  obtain ⟨-, -, hrange, rfl⟩ := Parts.instant_eq_ok.mp ht
  refine ⟨hrange, ?_, fun hleap => ?_⟩
  · simp only [Parts.moment]
    omega
  · simp only [Parts.moment, secondsPerDay] at hleap ⊢
    have hlast : p.second = 60 := by omega
    rw [hlast]
    omega

end EntityForge.Calendar
