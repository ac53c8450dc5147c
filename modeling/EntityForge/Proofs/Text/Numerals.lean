import EntityForge.Proofs.Text.Runs
import EntityForge.Text.Numeral
import Mathlib.Algebra.Group.Nat.Defs
import Mathlib.Data.List.Induction

/-!
# Digits read back

The digits of a number, with zeros in front or without, are read as the number, and a number is
bounded by how many digits it has. Nothing else is read, with a sign in front or without: the
readers of words give the number that the digits stand for, if it is in the range, and no other.
-/

namespace EntityForge.Text

/-! ### Digits -/

theorem ne_of_isDigit {c d : Char} (hc : c.isDigit = true) (hd : d.isDigit = false) : c ≠ d := by
  rintro rfl
  rw [hc] at hd
  cases hd

theorem digit?_of_isDigit {c : Char} (h : c.isDigit = true) :
    digit? c = some (c.toNat - '0'.toNat) := by
  rw [digit?, if_pos]
  simpa [Char.isDigit, Char.le_def] using h

/-- Digits are read on from the value of those before them. -/
theorem digitsFrom?_of_isDigit {ds : List Char} (h : ∀ c ∈ ds, c.isDigit = true) (value : Nat) :
    digitsFrom? value ds = some (Nat.ofDigitChars 10 ds value) := by
  induction ds generalizing value with
  | nil => rfl
  | cons c ds ih =>
    rw [digitsFrom?, digit?_of_isDigit (h c List.mem_cons_self), Option.bind_some,
      ih fun d hd => h d (List.mem_cons_of_mem c hd), Nat.ofDigitChars_cons]

theorem digits?_of_isDigit {ds : List Char} (hne : ds ≠ []) (h : ∀ c ∈ ds, c.isDigit = true) :
    digits? ds = some (Nat.ofDigitChars 10 ds 0) := by
  rw [digits?]
  · exact digitsFrom?_of_isDigit h 0
  · exact hne

/-! ### Digits of numbers -/

/-- The characters are decimal digits that stand for a number, and there are some. -/
structure Numeral (n : Nat) (ds : List Char) : Prop where
  /-- There is a digit. -/
  ne_nil : ds ≠ []
  /-- All are digits. -/
  isDigit : ∀ c ∈ ds, c.isDigit = true
  /-- They stand for the number. -/
  value : Nat.ofDigitChars 10 ds 0 = n

theorem Numeral.digits? {n : Nat} {ds : List Char} (h : Numeral n ds) :
    Text.digits? ds = some n := by
  rw [digits?_of_isDigit h.ne_nil h.isDigit, h.value]

/-- A numeral begins with a digit. -/
theorem Numeral.exists_cons {n : Nat} {ds : List Char} (h : Numeral n ds) :
    ∃ c rest, ds = c :: rest ∧ c.isDigit = true := by
  obtain ⟨c, rest, rfl⟩ := List.exists_cons_of_ne_nil h.ne_nil
  exact ⟨c, rest, rfl, h.isDigit c List.mem_cons_self⟩

theorem ofDigitChars_lt {ds : List Char} (h : ∀ c ∈ ds, c.isDigit = true) (value : Nat) :
    Nat.ofDigitChars 10 ds value < (value + 1) * 10 ^ ds.length := by
  induction ds generalizing value with
  | nil => simp
  | cons c ds ih =>
    have hc : c.toNat - '0'.toNat ≤ 9 := by
      have hdigit := h c List.mem_cons_self
      simp only [Char.isDigit, Bool.and_eq_true, decide_eq_true_eq] at hdigit
      have hle : c.val.toNat ≤ 57 := UInt32.le_iff_toNat_le.mp hdigit.2
      have hzero : '0'.toNat = 48 := rfl
      have hval : c.toNat = c.val.toNat := rfl
      omega
    calc Nat.ofDigitChars 10 (c :: ds) value
        = Nat.ofDigitChars 10 ds (10 * value + (c.toNat - '0'.toNat)) := Nat.ofDigitChars_cons
      _ < (10 * value + (c.toNat - '0'.toNat) + 1) * 10 ^ ds.length :=
        ih (fun d hd => h d (List.mem_cons_of_mem c hd)) _
      _ ≤ ((value + 1) * 10) * 10 ^ ds.length := Nat.mul_le_mul_right _ (by omega)
      _ = (value + 1) * 10 ^ (c :: ds).length := by
        rw [List.length_cons, Nat.pow_succ', Nat.mul_assoc]

/-- A number is bounded by the number of its digits. -/
theorem Numeral.lt {n : Nat} {ds : List Char} (h : Numeral n ds) : n < 10 ^ ds.length := by
  have hlt := ofDigitChars_lt h.isDigit 0
  rwa [h.value, Nat.zero_add, Nat.one_mul] at hlt

theorem numeral_toDigits (n : Nat) : Numeral n (Nat.toDigits 10 n) :=
  ⟨Nat.toDigits_ne_nil, fun _ => Nat.isDigit_of_mem_toDigits (by decide) (by decide),
    Nat.ofDigitChars_ten_toDigits⟩

theorem toList_padded (width n : Nat) :
    (padded width n).toList =
      List.replicate (width - (Nat.toDigits 10 n).length) '0' ++ Nat.toDigits 10 n := by
  rw [padded, String.toList_ofList]

/-- Zeros in front of the digits of a number change nothing. -/
theorem numeral_zeros (zeros n : Nat) :
    Numeral n (List.replicate zeros '0' ++ Nat.toDigits 10 n) := by
  refine ⟨by simp [Nat.toDigits_ne_nil], fun c hc => ?_, ?_⟩
  · rcases List.mem_append.mp hc with hc | hc
    · rw [List.eq_of_mem_replicate hc]
      decide
    · exact (numeral_toDigits n).isDigit c hc
  · rw [Nat.ofDigitChars_append, Nat.ofDigitChars_replicate_zero, Nat.mul_zero,
      Nat.ofDigitChars_ten_toDigits]

theorem numeral_padded (width n : Nat) : Numeral n (padded width n).toList := by
  rw [toList_padded]
  exact numeral_zeros _ n

/-- A number that has no more digits than the width has that many with the zeros. -/
theorem length_padded {width n : Nat} (hwidth : 0 < width) (h : n < 10 ^ width) :
    (padded width n).toList.length = width := by
  have hlength := (Nat.length_toDigits_le_iff (by decide) hwidth).mpr h
  rw [toList_padded, List.length_append, List.length_replicate]
  omega

/-! ### What is read -/

theorem digit?_eq_some {c : Char} {d : Nat} :
    digit? c = some d ↔ c.isDigit = true ∧ c.toNat - '0'.toNat = d := by
  rw [digit?, Option.ite_none_right_eq_some, Option.some.injEq]
  simp [Char.isDigit, Char.le_def]

theorem digitsFrom?_eq_some {ds : List Char} {value n : Nat} :
    digitsFrom? value ds = some n ↔
      (∀ c ∈ ds, c.isDigit = true) ∧ Nat.ofDigitChars 10 ds value = n := by
  refine ⟨fun h => ?_, fun ⟨hdigits, hvalue⟩ => hvalue ▸ digitsFrom?_of_isDigit hdigits value⟩
  have hdigits : ∀ c ∈ ds, c.isDigit = true := by
    induction ds generalizing value with
    | nil => exact nofun
    | cons c ds ih =>
      obtain ⟨d, hd, hrest⟩ := Option.bind_eq_some_iff.mp h
      exact List.forall_mem_cons.mpr ⟨(digit?_eq_some.mp hd).1, ih hrest⟩
  rw [digitsFrom?_of_isDigit hdigits] at h
  exact ⟨hdigits, Option.some.inj h⟩

/-- Digits are read as a number just where they stand for it. -/
theorem digits?_eq_some {ds : List Char} {n : Nat} : digits? ds = some n ↔ Numeral n ds := by
  refine ⟨fun h => ?_, Numeral.digits?⟩
  cases ds with
  | nil => cases h
  | cons c ds =>
    obtain ⟨hdigits, hvalue⟩ := digitsFrom?_eq_some.mp h
    exact ⟨List.cons_ne_nil c ds, hdigits, hvalue⟩

theorem digitChar_of_isDigit {c : Char} (h : c.isDigit = true) :
    c.toNat - '0'.toNat < 10 ∧ Nat.digitChar (c.toNat - '0'.toNat) = c := by
  have hbounds : 48 ≤ c.toNat ∧ c.toNat ≤ 57 := by
    simpa [Char.isDigit, UInt32.le_iff_toNat_le] using h
  have hzero : '0'.toNat = 48 := rfl
  have hlt : c.toNat - '0'.toNat < 10 := by omega
  refine ⟨hlt, Char.toNat_inj.mp ?_⟩
  rw [Nat.toNat_digitChar_of_lt_ten hlt]
  omega

/-- The digits that stand for a number are its own, with any number of zeros in front. -/
theorem numeral_iff {n : Nat} {ds : List Char} :
    Numeral n ds ↔ ∃ zeros, ds = List.replicate zeros '0' ++ Nat.toDigits 10 n := by
  constructor
  · rintro ⟨hne, hdigits, rfl⟩
    induction ds using List.reverseRecOn with
    | nil => exact absurd rfl hne
    | append_singleton ds c ih =>
      obtain ⟨hds, hc⟩ := List.forall_mem_append.mp hdigits
      obtain ⟨hlt, hchar⟩ := digitChar_of_isDigit (hc c List.mem_cons_self)
      have hlast : Nat.toDigits 10 (c.toNat - '0'.toNat) = [c] := by
        rw [Nat.toDigits_of_lt_base hlt, hchar]
      rw [Nat.ofDigitChars_append, Nat.ofDigitChars_cons, Nat.ofDigitChars_nil]
      rcases Nat.eq_zero_or_pos (Nat.ofDigitChars 10 ds 0) with hzero | hpos
      · -- all before the last digit are zeros
        rw [hzero, Nat.mul_zero, Nat.zero_add, hlast]
        cases ds with
        | nil => exact ⟨0, rfl⟩
        | cons d ds =>
          obtain ⟨zeros, hzeros⟩ := ih (List.cons_ne_nil d ds) hds
          rw [hzero, Nat.toDigits_zero, ← List.replicate_succ'] at hzeros
          exact ⟨zeros + 1, by rw [hzeros]⟩
      · have hne' : ds ≠ [] := by
          rintro rfl
          exact absurd hpos (Nat.lt_irrefl 0)
        obtain ⟨zeros, hzeros⟩ := ih hne' hds
        refine ⟨zeros, ?_⟩
        rw [← Nat.toDigits_append_toDigits (by decide) hpos hlt, hlast, ← List.append_assoc,
          ← hzeros]
  · rintro ⟨zeros, rfl⟩
    exact numeral_zeros zeros n

/-! ### Signs -/

/-- The characters stand for a number: they are digits behind a sign or behind none. -/
inductive SignedNumeral : Int → List Char → Prop
  /-- There is no sign. -/
  | unsigned {n : Nat} {ds : List Char} : Numeral n ds → SignedNumeral n ds
  /-- There is a plus sign. -/
  | plus {n : Nat} {ds : List Char} : Numeral n ds → SignedNumeral n ('+' :: ds)
  /-- There is a minus sign. -/
  | minus {n : Nat} {ds : List Char} : Numeral n ds → SignedNumeral (-n) ('-' :: ds)

/-- Digits begin with no sign. -/
theorem Numeral.head?_ne {n : Nat} {ds : List Char} (h : Numeral n ds) {c : Char}
    (hc : c.isDigit = false) : ds.head? ≠ some c := by
  obtain ⟨d, rest, rfl, hd⟩ := h.exists_cons
  rw [List.head?_cons, Ne, Option.some.injEq]
  exact ne_of_isDigit hd hc

theorem natural?_eq_some {n : Nat} {cs : List Char} :
    natural? cs = some n ↔ SignedNumeral n cs ∧ cs.head? ≠ some '-' := by
  unfold natural?
  split
  · next ds =>
    rw [digits?_eq_some]
    refine ⟨fun h => ⟨.plus h, nofun⟩, fun ⟨h, _⟩ => ?_⟩
    generalize hm : (n : Int) = m at h
    cases h with
    | unsigned h => exact absurd rfl (h.head?_ne (c := '+') rfl)
    | plus h => rwa [Int.ofNat_inj.mp hm]
  · next hplus =>
    rw [digits?_eq_some]
    refine ⟨fun h => ⟨.unsigned h, h.head?_ne rfl⟩, fun ⟨h, hminus⟩ => ?_⟩
    generalize hm : (n : Int) = m at h
    cases h with
    | unsigned h => rwa [Int.ofNat_inj.mp hm]
    | plus h => exact absurd rfl (hplus _)
    | minus h => exact absurd rfl hminus

theorem integer?_eq_some {n : Int} {cs : List Char} :
    integer? cs = some n ↔ SignedNumeral n cs := by
  unfold integer?
  split
  · next ds =>
    simp only [Option.map_eq_some_iff, Option.bind_eq_bind, Option.bind_eq_some_iff,
      digits?_eq_some, Option.pure_def, Option.some.injEq]
    constructor
    · rintro ⟨_, ⟨m, hm, rfl⟩, rfl⟩
      exact .minus hm
    · intro h
      cases h with
      | unsigned h => exact absurd rfl (h.head?_ne (c := '-') rfl)
      | minus h => exact ⟨_, ⟨_, h, rfl⟩, rfl⟩
  · next hminus =>
    simp only [Option.map_eq_some_iff, natural?_eq_some]
    constructor
    · rintro ⟨m, ⟨h, -⟩, rfl⟩
      exact h
    · intro h
      cases h with
      | unsigned h => exact ⟨_, ⟨.unsigned h, h.head?_ne rfl⟩, rfl⟩
      | plus h => exact ⟨_, ⟨.plus h, nofun⟩, rfl⟩
      | minus h => exact absurd rfl (hminus _)

/-! ### Words -/

/-- A word without a sign is read from the numerals of its numbers, which begin with no minus
sign. -/
theorem word32?_eq_some {s : String} {w : UInt32} :
    word32? s = some w ↔ ∃ n : Nat, (SignedNumeral n s.toList ∧ s.toList.head? ≠ some '-') ∧
      n ≤ 4294967295 ∧ w.toNat = n := by
  have hcount : Word.count 32 = 4294967296 := rfl
  rw [word32?, Option.bind_eq_some_iff]
  refine exists_congr fun n => ?_
  rw [natural?_eq_some, Option.ite_none_right_eq_some, Option.some.injEq, hcount]
  refine and_congr_right fun _ => ?_
  constructor
  · rintro ⟨hlt, rfl⟩
    exact ⟨by omega, UInt32.toNat_ofNat_of_lt' hlt⟩
  · rintro ⟨hle, rfl⟩
    exact ⟨w.toNat_lt, UInt32.ofNat_toNat⟩

/-- A word with a sign is read from the numerals of its numbers. -/
theorem signed64?_eq_some {s : String} {n : Int} :
    signed64? s = some n ↔ SignedNumeral n s.toList ∧
      -9223372036854775808 ≤ n ∧ n ≤ 9223372036854775807 := by
  have hcount : Word.count 63 = 9223372036854775808 := rfl
  rw [signed64?, Option.bind_eq_some_iff]
  simp only [integer?_eq_some, Option.ite_none_right_eq_some, Option.some.injEq, Word.Signed,
    hcount]
  constructor
  · rintro ⟨m, hm, hrange, rfl⟩
    exact ⟨hm, hrange.1, by omega⟩
  · rintro ⟨hn, hlow, hhigh⟩
    exact ⟨n, hn, ⟨hlow, by omega⟩, rfl⟩

end EntityForge.Text
