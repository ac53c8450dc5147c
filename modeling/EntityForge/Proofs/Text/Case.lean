import EntityForge.Text.Case
import Mathlib.Tactic.SplitIfs

/-!
# Characters without case

An ASCII character that is no letter is the image of itself alone, in upper and in lower case, so a
text has such a character in either case exactly if it has it at all. The tables are looked at once:
no code point outside ASCII goes to an ASCII character that is no letter.
-/

namespace EntityForge.Text

/-- An ASCII character that is no letter, and not the null character. -/
structure Caseless (x : Char) : Prop where
  /-- The character is an ASCII character. -/
  ascii : x.toNat < 128
  /-- It is not the null character. -/
  ne_null : x.toNat ≠ 0
  /-- It is no letter. -/
  letterless : x.isAlpha = false

theorem caseless_slash : Caseless '/' := ⟨by decide, by decide, by decide⟩

theorem caseless_newline : Caseless '\n' := ⟨by decide, by decide, by decide⟩

/-! ### The tables -/

/-- A code point of an ASCII letter or outside ASCII. -/
def Lettered (n : Nat) : Prop :=
  128 ≤ n ∨ (Char.ofNat n).isAlpha = true

instance (n : Nat) : Decidable (Lettered n) := inferInstanceAs (Decidable (_ ∨ _))

/-- A number that is no code point stands for the null character. -/
theorem toNat_ofNat_cases (n : Nat) : (Char.ofNat n).toNat = n ∨ (Char.ofNat n).toNat = 0 := by
  rw [Char.ofNat]
  by_cases h : n.isValidChar
  · rw [dif_pos h]
    exact .inl rfl
  · rw [dif_neg h]
    exact .inr rfl

theorem ofNat_ne_of_lettered {x : Char} (hx : Caseless x) {n : Nat} (h : Lettered n) :
    Char.ofNat n ≠ x := by
  rintro rfl
  rcases h with h | h
  · have hascii := hx.ascii
    have hnull := hx.ne_null
    rcases toNat_ofNat_cases n with heq | heq <;> omega
  · rw [hx.letterless] at h
    cases h

/-- A row of a table sends no code point outside ASCII to an ASCII character that is no letter. -/
def LetteredRow (row : Nat × Nat × Nat × Nat) : Prop :=
  row.2.1 < 128 ∨ 128 ≤ row.2.2.2 ∨ row.1 = row.2.1 ∧ Lettered row.2.2.2

instance (row : Nat × Nat × Nat × Nat) : Decidable (LetteredRow row) :=
  inferInstanceAs (Decidable (_ ∨ _ ∨ _))

theorem letteredRow_upperRuns : ∀ row ∈ upperRuns.toList, LetteredRow row := by decide +kernel

theorem letteredRow_lowerRuns : ∀ row ∈ lowerRuns.toList, LetteredRow row := by decide +kernel

theorem lettered_upperExpansions : ∀ row ∈ upperExpansions.toList,
    Lettered row.2.1 ∧ Lettered row.2.2.1 ∧ (row.2.2.2 = 0 ∨ Lettered row.2.2.2) := by
  decide +kernel

theorem lettered_of_mapRuns {table : Array (Nat × Nat × Nat × Nat)}
    (htable : ∀ row ∈ table.toList, LetteredRow row) {n m : Nat} (hn : 128 ≤ n)
    (h : mapRuns table n = some m) : Lettered m := by
  obtain ⟨⟨first, last, step, target⟩, hfind, rfl⟩ := Option.map_eq_some_iff.mp h
  have hrow := htable _ (Array.mem_toList_iff.mpr (Array.mem_of_find?_eq_some hfind))
  have hmatch := Array.find?_some hfind
  simp only [Bool.and_eq_true, decide_eq_true_eq] at hmatch
  simp only [LetteredRow] at hrow ⊢
  rcases hrow with hrow | hrow | ⟨hsingle, hlettered⟩
  · omega
  · exact .inl (by omega)
  · obtain rfl : n = first := by omega
    rwa [Nat.sub_self, Nat.add_zero]

/-- A character that a table leaves alone or sends elsewhere is sent to no caseless character but by
being it. -/
theorem ne_of_mapRuns {table : Array (Nat × Nat × Nat × Nat)}
    (htable : ∀ row ∈ table.toList, LetteredRow row) {x c : Char} (hx : Caseless x)
    (hc : 128 ≤ c.toNat) : ((mapRuns table c.toNat).map Char.ofNat).getD c ≠ x := by
  cases h : mapRuns table c.toNat with
  | none =>
    rintro rfl
    have := hx.ascii
    simp only [Option.map_none, Option.getD_none] at this
    omega
  | some m => exact ofNat_ne_of_lettered hx (lettered_of_mapRuns htable hc h)

/-! ### Characters -/

theorem toUpper_eq_iff {x : Char} (hx : Caseless x) {c : Char} (hc : c.toNat < 128) :
    c.toUpper = x ↔ c = x := by
  have hascii : ∀ n < 128, (Char.ofNat n).toUpper = Char.ofNat n ∨
      (Char.ofNat n).toUpper.isAlpha = true ∧ (Char.ofNat n).isAlpha = true := by decide +kernel
  rcases Char.ofNat_toNat c ▸ hascii c.toNat hc with heq | ⟨hupper, halpha⟩
  · rw [heq]
  · constructor <;> rintro rfl <;> simp_all [hx.letterless]

theorem toLower_eq_iff {x : Char} (hx : Caseless x) {c : Char} (hc : c.toNat < 128) :
    c.toLower = x ↔ c = x := by
  have hascii : ∀ n < 128, (Char.ofNat n).toLower = Char.ofNat n ∨
      (Char.ofNat n).toLower.isAlpha = true ∧ (Char.ofNat n).isAlpha = true := by decide +kernel
  rcases Char.ofNat_toNat c ▸ hascii c.toNat hc with heq | ⟨hlower, halpha⟩
  · rw [heq]
  · constructor <;> rintro rfl <;> simp_all [hx.letterless]

/-- Outside ASCII a character is not the caseless one, so none of its images may be. -/
theorem mem_iff_of_images {x c : Char} (hx : Caseless x) (hc : ¬ c.toNat < 128) {images : List Char}
    (h : ∀ y ∈ images, y ≠ x) : x ∈ images ↔ c = x := by
  refine iff_of_false (fun hmem => h x hmem rfl) ?_
  rintro rfl
  exact hc hx.ascii

theorem mem_upper_iff {x : Char} (hx : Caseless x) (c : Char) : x ∈ upper c ↔ c = x := by
  rw [upper]
  split_ifs with hc
  · rw [List.mem_singleton, eq_comm, toUpper_eq_iff hx hc]
  · refine mem_iff_of_images hx hc fun y hy => ?_
    split at hy
    · next n a b hfind =>
      obtain ⟨ha, hb, -⟩ := lettered_upperExpansions _
        (Array.mem_toList_iff.mpr (Array.mem_of_find?_eq_some hfind))
      simp only [List.mem_cons, List.not_mem_nil, or_false] at hy
      rcases hy with rfl | rfl
      · exact ofNat_ne_of_lettered hx ha
      · exact ofNat_ne_of_lettered hx hb
    · next n a b d hd hfind =>
      obtain ⟨ha, hb, hd'⟩ := lettered_upperExpansions _
        (Array.mem_toList_iff.mpr (Array.mem_of_find?_eq_some hfind))
      simp only [List.mem_cons, List.not_mem_nil, or_false] at hy
      rcases hy with rfl | rfl | rfl
      · exact ofNat_ne_of_lettered hx ha
      · exact ofNat_ne_of_lettered hx hb
      · exact ofNat_ne_of_lettered hx (hd'.resolve_left hd)
    · rw [List.mem_singleton.mp hy]
      exact ne_of_mapRuns letteredRow_upperRuns hx (by omega)

theorem mem_lower_iff {x : Char} (hx : Caseless x) (c : Char) : x ∈ lower c ↔ c = x := by
  rw [lower]
  split_ifs with hc hdotted
  · rw [List.mem_singleton, eq_comm, toLower_eq_iff hx hc]
  · refine mem_iff_of_images hx hc fun y hy => ?_
    simp only [List.mem_cons, List.not_mem_nil, or_false] at hy
    rcases hy with rfl | rfl
    · exact ofNat_ne_of_lettered (n := 'i'.toNat) hx (.inr (by decide))
    · exact ofNat_ne_of_lettered hx (.inl (by decide))
  · refine mem_iff_of_images hx hc fun y hy => ?_
    rw [List.mem_singleton.mp hy]
    exact ne_of_mapRuns letteredRow_lowerRuns hx (by omega)

/-! ### The case of images -/

theorem upper_ne_nil (c : Char) : upper c ≠ [] := by
  rw [upper]
  split_ifs
  · simp
  · split <;> simp

theorem lower_ne_nil (c : Char) : lower c ≠ [] := by
  rw [lower]
  split_ifs <;> simp

/-- A character is the lower case of its upper case. -/
def Restored (c : Char) : Prop :=
  ∃ u, upper c = [u] ∧ lower u = [c]

theorem restored_of_ascii {c : Char} (hc : c.toNat < 128) (hupper : c.isUpper = false) :
    Restored c := by
  have hascii : ∀ n < 128, (Char.ofNat n).isUpper = false →
      upper (Char.ofNat n) = [(Char.ofNat n).toUpper] ∧
        lower (Char.ofNat n).toUpper = [Char.ofNat n] := by decide +kernel
  exact ⟨c.toUpper, Char.ofNat_toNat c ▸ hascii c.toNat hc (by rwa [Char.ofNat_toNat])⟩

theorem isUpper_eq_false_of_toNat {c : Char} (h : 90 < c.toNat ∨ c.toNat < 65) :
    c.isUpper = false := by
  have hrange : c.isUpper = decide (c.val ≥ 'A'.val ∧ c.val ≤ 'Z'.val) := rfl
  rw [hrange, decide_eq_false_iff_not]
  rintro ⟨hlow, hhigh⟩
  have hlow' : 65 ≤ c.toNat := UInt32.le_iff_toNat_le.mp hlow
  have hhigh' : c.toNat ≤ 90 := UInt32.le_iff_toNat_le.mp hhigh
  omega

/-- A row of a table sends no code point outside ASCII to an ASCII capital. -/
def UncapitalRow (row : Nat × Nat × Nat × Nat) : Prop :=
  row.2.1 < 128 ∨ 128 ≤ row.2.2.2 ∨ row.1 = row.2.1 ∧ (Char.ofNat row.2.2.2).isUpper = false

instance (row : Nat × Nat × Nat × Nat) : Decidable (UncapitalRow row) :=
  inferInstanceAs (Decidable (_ ∨ _ ∨ _))

theorem uncapitalRow_lowerRuns : ∀ row ∈ lowerRuns.toList, UncapitalRow row := by decide +kernel

theorem isUpper_of_mapRuns {n m : Nat} (hn : 128 ≤ n) (h : mapRuns lowerRuns n = some m) :
    (Char.ofNat m).isUpper = false := by
  obtain ⟨⟨first, last, step, target⟩, hfind, rfl⟩ := Option.map_eq_some_iff.mp h
  have hrow := uncapitalRow_lowerRuns _
    (Array.mem_toList_iff.mpr (Array.mem_of_find?_eq_some hfind))
  have hmatch := Array.find?_some hfind
  simp only [Bool.and_eq_true, decide_eq_true_eq] at hmatch
  simp only [UncapitalRow] at hrow ⊢
  rcases hrow with hrow | hrow | ⟨hsingle, hlow⟩
  · omega
  · refine isUpper_eq_false_of_toNat ?_
    rcases toNat_ofNat_cases (target + (n - first)) with heq | heq <;> omega
  · have htarget : target + (n - first) = target := by omega
    rw [htarget]
    exact hlow

/-- No lower case holds an ASCII capital. -/
theorem isUpper_of_mem_lower {x c : Char} (h : x ∈ lower c) : x.isUpper = false := by
  rw [lower] at h
  split_ifs at h with hc hdotted
  · have hascii : ∀ n < 128, (Char.ofNat n).toLower.isUpper = false := by decide +kernel
    rw [List.mem_singleton.mp h]
    exact Char.ofNat_toNat c ▸ hascii c.toNat hc
  · simp only [List.mem_cons, List.not_mem_nil, or_false] at h
    rcases h with rfl | rfl
    · decide
    · decide
  · rw [List.mem_singleton.mp h]
    cases hmap : mapRuns lowerRuns c.toNat with
    | none =>
      rw [Option.map_none, Option.getD_none]
      exact isUpper_eq_false_of_toNat (.inl (by omega))
    | some m => exact isUpper_of_mapRuns (by omega) hmap

/-! ### Texts -/

theorem mem_upperText_iff {x : Char} (hx : Caseless x) {cs : List Char} :
    x ∈ upperText cs ↔ x ∈ cs := by
  simp only [upperText, List.mem_flatMap, mem_upper_iff hx, exists_eq_right]

theorem mem_lowerFrom_iff {x : Char} (hx : Caseless x) {before cs : List Char} :
    x ∈ lowerFrom before cs ↔ x ∈ cs := by
  induction cs generalizing before with
  | nil => rfl
  | cons c cs ih =>
    have himage : x ∈ (if c = 'Σ' ∧ startsCased before ∧ ¬ startsCased cs then ['ς'] else lower c) ↔
        c = x := by
      split_ifs with hsigma
      · rw [hsigma.1]
        refine mem_iff_of_images hx (by decide) fun y hy => ?_
        rw [List.mem_singleton.mp hy]
        exact ofNat_ne_of_lettered (n := 'ς'.toNat) hx (.inl (by decide))
      · exact mem_lower_iff hx c
    rw [lowerFrom, List.mem_append, ih, himage, List.mem_cons, eq_comm]

theorem mem_lowerText_iff {x : Char} (hx : Caseless x) {cs : List Char} :
    x ∈ lowerText cs ↔ x ∈ cs :=
  mem_lowerFrom_iff hx

theorem lowerText_ne_nil {cs : List Char} (h : cs ≠ []) : lowerText cs ≠ [] := by
  obtain ⟨c, rest, rfl⟩ := List.exists_cons_of_ne_nil h
  intro hnil
  rw [lowerText, lowerFrom] at hnil
  have himage := (List.append_eq_nil_iff.mp hnil).1
  split_ifs at himage
  exact lower_ne_nil c himage

theorem isUpper_of_mem_lowerFrom {x : Char} {before cs : List Char} (h : x ∈ lowerFrom before cs) :
    x.isUpper = false := by
  induction cs generalizing before with
  | nil => cases h
  | cons c cs ih =>
    rw [lowerFrom] at h
    rcases List.mem_append.mp h with h | h
    · split_ifs at h
      · rw [List.mem_singleton.mp h]
        decide
      · exact isUpper_of_mem_lower h
    · exact ih h

theorem isUpper_of_mem_lowerText {x : Char} {cs : List Char} (h : x ∈ lowerText cs) :
    x.isUpper = false :=
  isUpper_of_mem_lowerFrom h

end EntityForge.Text
