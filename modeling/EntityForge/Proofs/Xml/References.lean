import Mathlib.Tactic.IntervalCases
import EntityForge.Proofs.Text.Runs
import EntityForge.Proofs.Xml.Grammar
import EntityForge.Xml.Reference

/-!
# Reading references back

A reference written for a character, by name or by number, is resolved to that character, and an
attribute value to the characters it was written for. Numbers may begin with zeros: the digits read
so far never stand for more than the whole number does.
-/

namespace EntityForge.Xml

open Grammar
open Text (takeWhile_append_cons dropWhile_append_cons)

/-! ### Numbers -/

/-- A digit that is written is read as its value. -/
theorem digitIn?_of_digit {base d : Nat} {c : Char} (hbase : base ≤ 16) (h : Digit base d c) :
    digitIn? base c = some d := by
  have hd : d < base := by cases h <;> assumption
  have hd' : d < 16 := by omega
  have hread : digitIn? 16 (Nat.digitChar d) = some d ∧
      digitIn? 16 (Nat.digitChar d).toUpper = some d := by
    interval_cases d <;> decide
  have h16 : digitIn? 16 c = some d := by
    cases h with
    | lower => exact hread.1
    | upper => exact hread.2
  simp only [digitIn?, Option.filter_eq_some_iff, decide_eq_true_eq] at h16 ⊢
  exact ⟨h16.1, hd⟩

/-- The characters of digits are letters and digits. -/
theorem isAlphanum_of_digit {base d : Nat} {c : Char} (hbase : base ≤ 16) (h : Digit base d c) :
    c.isAlphanum = true := by
  have hd : d < base := by cases h <;> assumption
  have hd' : d < 16 := by omega
  have hchars : (Nat.digitChar d).isAlphanum = true ∧
      (Nat.digitChar d).toUpper.isAlphanum = true := by
    interval_cases d <;> decide
  cases h with
  | lower => exact hchars.1
  | upper => exact hchars.2

theorem isAlphanum_of_numeral {base n : Nat} {cs : List Char} (hbase : base ≤ 16)
    (h : Numeral base n cs) : ∀ c ∈ cs, c.isAlphanum = true := by
  induction h with
  | digit hd =>
    intro c hc
    rw [List.mem_singleton.mp hc]
    exact isAlphanum_of_digit hbase hd
  | more _ hd ih =>
    intro c hc
    rcases List.mem_append.mp hc with hc | hc
    · exact ih c hc
    · rw [List.mem_singleton.mp hc]
      exact isAlphanum_of_digit hbase hd

theorem ne_nil_of_numeral {base n : Nat} {cs : List Char} (h : Numeral base n cs) : cs ≠ [] := by
  cases h <;> simp

theorem numberFrom_append (base value : Nat) (xs ys : List Char) :
    numberFrom base value (xs ++ ys) =
      (numberFrom base value xs).bind fun v => numberFrom base v ys := by
  induction xs generalizing value with
  | nil => rfl
  | cons x xs ih =>
    rw [List.cons_append, numberFrom, numberFrom]
    split
    · rfl
    · split_ifs
      · exact ih _
      · rfl

/-- The digits of a number that fits in a word are read as the number. -/
theorem numberFrom_of_numeral {base n : Nat} {cs : List Char} (hpos : 0 < base) (hbase : base ≤ 16)
    (h : Numeral base n cs) (hn : n < Word.count 32) : numberFrom base 0 cs = .ok n := by
  induction h with
  | @digit d c hd =>
    rw [numberFrom, digitIn?_of_digit hbase hd]
    simp only [Nat.mul_zero, Nat.zero_add]
    rw [if_pos hn, numberFrom]
  | @more n d c cs _ hd ih =>
    have hle : n ≤ base * n := Nat.le_mul_of_pos_left n hpos
    have hn' : n < Word.count 32 := by omega
    rw [numberFrom_append, ih hn', Except.bind, numberFrom, digitIn?_of_digit hbase hd]
    simp only
    rw [if_pos hn, numberFrom]

theorem charOfNumber_toNat {c : Char} (h : c.toNat ≠ 0) : charOfNumber c.toNat = .ok c := by
  have hvalid : c.toNat.isValidChar := c.valid
  rw [charOfNumber, if_neg h, dif_pos hvalid]
  rfl

/-- The digits of a character's number are read as the character. -/
theorem charOfDigits_of_numeral {base : Nat} {c : Char} {digits : List Char} (hpos : 0 < base)
    (hbase : base ≤ 16) (hc : c.toNat ≠ 0) (h : Numeral base c.toNat digits) :
    charOfDigits base digits = .ok c := by
  have hfits : c.toNat < Word.count 32 := c.val.toBitVec.isLt
  have hnumber := numberFrom_of_numeral hpos hbase h hfits
  have halphanum := isAlphanum_of_numeral hbase h
  unfold charOfDigits
  split
  · exact absurd rfl (ne_nil_of_numeral h)
  · exact absurd (halphanum '+' List.mem_cons_self) (by decide)
  · exact absurd (halphanum '-' List.mem_cons_self) (by decide)
  · rw [hnumber]
    exact charOfNumber_toNat hc

/-! ### Names and numbers of characters -/

/-- What stands in a reference are letters, digits and a number sign. -/
theorem mem_reference {c d : Char} {name : List Char} (h : Reference c name) (hd : d ∈ name) :
    d = '#' ∨ d.isAlphanum = true := by
  cases h with
  | lt | gt | amp | apos | quot =>
    exact .inr (List.all_eq_true.mp (by decide) d hd)
  | decimal _ hdigits =>
    rcases List.mem_cons.mp hd with rfl | hd
    · exact .inl rfl
    · exact .inr (isAlphanum_of_numeral (by decide) hdigits d hd)
  | hexadecimal _ hdigits =>
    rcases List.mem_cons.mp hd with rfl | hd
    · exact .inl rfl
    · rcases List.mem_cons.mp hd with rfl | hd
      · exact .inr (by decide)
      · exact .inr (isAlphanum_of_numeral (by decide) hdigits d hd)

/-- A character that is neither a letter, a digit nor a number sign does not stand in a
reference. -/
theorem ne_of_mem_reference {c d x : Char} {name : List Char} (h : Reference c name)
    (hd : d ∈ name) (hx : x ≠ '#') (hx' : x.isAlphanum = false) : d ≠ x := by
  rintro rfl
  rcases mem_reference h hd with rfl | halphanum
  · exact hx rfl
  · rw [hx'] at halphanum
    cases halphanum

theorem numericReference_decimal {c : Char} {digits : List Char} (hc : c.toNat ≠ 0)
    (h : Numeral 10 c.toNat digits) : numericReference digits = .ok c := by
  have hread := charOfDigits_of_numeral (by decide) (by decide) hc h
  unfold numericReference
  split
  · next cs =>
    have hx := numberFrom_of_numeral (by decide) (by decide) h c.val.toBitVec.isLt
    cases hx
  · exact hread

theorem numericReference_hexadecimal {c : Char} {digits : List Char} (hc : c.toNat ≠ 0)
    (h : Numeral 16 c.toNat digits) : numericReference ('x' :: digits) = .ok c :=
  charOfDigits_of_numeral (by decide) (by decide) hc h

/-- A reference in a text is resolved to the character it was written for. -/
theorem resolveReference_of_reference {c : Char} {name : List Char} (h : Reference c name) :
    resolveReference name = .ok c := by
  cases h with
  | lt | gt | amp | apos | quot => rfl
  | decimal hc hdigits => rw [resolveReference, numericReference_decimal hc hdigits]
  | hexadecimal hc hdigits => rw [resolveReference, numericReference_hexadecimal hc hdigits]

/-- A reference in an attribute value is resolved to the character it was written for. -/
theorem resolveValueReference_of_reference {c : Char} {name : List Char} (h : Reference c name)
    (start stop : Nat) : resolveValueReference start stop name = .ok c := by
  cases h with
  | lt | gt | amp | apos | quot => rfl
  | decimal hc hdigits => rw [resolveValueReference, numericReference_decimal hc hdigits]
  | hexadecimal hc hdigits => rw [resolveValueReference, numericReference_hexadecimal hc hdigits]

/-! ### Values -/

theorem inValueReference_of_mem {c d : Char} {name : List Char} (h : Reference c name)
    (hd : d ∈ name) : inValueReference d = true := by
  have hamp := ne_of_mem_reference (x := '&') h hd (by decide) (by decide)
  have hend := ne_of_mem_reference (x := ';') h hd (by decide) (by decide)
  simp [inValueReference, hamp, hend]

/-- A value is resolved to the characters it was written for. -/
theorem resolveValueFrom_of_value {quote : Char} {value cs : List Char} (h : Value quote value cs)
    (size position : Nat) : resolveValueFrom size position cs = .ok value := by
  induction h generalizing position with
  | nil => rw [resolveValueFrom]
  | char _ hamp _ _ _ ih =>
    rw [resolveValueFrom, ih]
    · rfl
    · exact hamp
  | @reference c name value cs hname _ ih =>
    have hin := fun d hd => inValueReference_of_mem (d := d) hname hd
    have hend : inValueReference ';' = false := by decide
    have hdrop := dropWhile_append_cons cs hin hend
    rw [resolveValueFrom]
    split
    · next after hafter =>
      rw [hdrop] at hafter
      cases hafter
      simp only [takeWhile_append_cons cs hin hend, resolveValueReference_of_reference hname, ih]
      rfl
    · next hother => exact absurd hdrop (hother cs)

theorem resolveValue_of_value {quote : Char} {value cs : List Char} (h : Value quote value cs) :
    resolveValue cs = .ok value :=
  resolveValueFrom_of_value h _ _

/-- A written value does not contain the quote around it. -/
theorem ne_quote_of_mem_value {quote : Char} {value cs : List Char} (hquote : IsQuote quote)
    (h : Value quote value cs) : ∀ d ∈ cs, d ≠ quote := by
  induction h with
  | nil => simp
  | char _ _ hne _ _ ih =>
    intro d hd
    rcases List.mem_cons.mp hd with rfl | hd
    · exact hne
    · exact ih d hd
  | reference hname _ ih =>
    have hplain : quote ≠ '#' ∧ quote.isAlphanum = false ∧ '&' ≠ quote ∧ ';' ≠ quote := by
      rcases hquote with rfl | rfl <;> decide
    intro d hd
    rw [List.mem_cons, List.mem_append, List.mem_cons] at hd
    rcases hd with rfl | hd | rfl | hd
    · exact hplain.2.2.1
    · exact ne_of_mem_reference hname hd hplain.1 hplain.2.1
    · exact hplain.2.2.2
    · exact ih d hd

end EntityForge.Xml
