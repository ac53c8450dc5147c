import EntityForge.Json.Number
import EntityForge.Json.Printer
import EntityForge.Json.Reader
import EntityForge.Proofs.Text.Numerals
import Mathlib.Data.List.Forall2
import Mathlib.Tactic.IntervalCases
import Mathlib.Tactic.SplitIfs

/-!
# Texts and numbers read back

A text between quotes is read as the text, whatever characters it has. Each character is written as
one piece that stands for it: as it is, as a short escape, or as a control character by its number.

The digits of a number are read as a number written in the same way, up to where no number can go
on, and they stand for the number if it fits in a word.
-/

namespace EntityForge.Json

open Text (Ends Numeral)

/-! ### Texts -/

/-- A piece that makes a character by itself. -/
inductive Piece.Stands : Piece → Char → Prop
  /-- The character as it is. -/
  | char (c : Char) : Stands (.char c) c
  /-- A control character by its number. -/
  | unit (c : Char) (h : c.toNat < 0x20) : Stands (.unit c.toNat) c

theorem charsOfPieces_cons {p : Piece} {c : Char} (h : p.Stands c) (rest : List Piece) :
    charsOfPieces (p :: rest) = (charsOfPieces rest).map (c :: ·) := by
  cases h with
  | char => rw [charsOfPieces]
  | unit _ hc =>
    rw [charsOfPieces.eq_def]
    simp only
    rw [if_pos (.inl (by omega)), Char.ofNat_toNat]

theorem charsOfPieces_of_stands {ps : List Piece} {cs : List Char}
    (h : List.Forall₂ Piece.Stands ps cs) : charsOfPieces ps = some cs := by
  induction h with
  | nil => rfl
  | cons hhead _ ih => rw [charsOfPieces_cons hhead, ih, Option.map_some]

theorem hexDigit?_hexDigitChar {n : Nat} (h : n < 16) : hexDigit? (hexDigitChar n) = some n := by
  interval_cases n <;> rfl

/-- A character is read as one piece that stands for it. -/
theorem readPieces_escapeChar (c : Char) (seen : List Piece) (rest : List Char) :
    ∃ p : Piece, p.Stands c ∧
      readPieces seen (escapeChar c ++ rest) = readPieces (p :: seen) rest := by
  unfold escapeChar
  split_ifs with hquote hbackslash hback hfeed hline hreturn htab hcontrol
  · exact ⟨_, .char c, by subst hquote; simp [readPieces, shortEscape?]⟩
  · exact ⟨_, .char c, by subst hbackslash; simp [readPieces, shortEscape?]⟩
  · exact ⟨_, .char c, by subst hback; simp [readPieces, shortEscape?]⟩
  · exact ⟨_, .char c, by subst hfeed; simp [readPieces, shortEscape?]⟩
  · exact ⟨_, .char c, by subst hline; simp [readPieces, shortEscape?]⟩
  · exact ⟨_, .char c, by subst hreturn; simp [readPieces, shortEscape?]⟩
  · exact ⟨_, .char c, by subst htab; simp [readPieces, shortEscape?]⟩
  · refine ⟨_, .unit c hcontrol, ?_⟩
    have hhigh := hexDigit?_hexDigitChar (show c.toNat / 16 < 16 by omega)
    have hlow := hexDigit?_hexDigitChar (show c.toNat % 16 < 16 by omega)
    have hvalue : c.toNat / 16 * 16 + c.toNat % 16 = c.toNat := Nat.div_add_mod' _ _
    simp [readPieces, readHex4, hhigh, hlow, hvalue, show hexDigit? '0' = some 0 from rfl]
  · refine ⟨_, .char c, ?_⟩
    rw [List.singleton_append, readPieces]
    · exact if_neg hcontrol
    · exact hquote
    · exact fun _ _ _ _ _ heq _ => hbackslash heq
    · exact fun _ _ heq _ => hbackslash heq

theorem readPieces_flatMap (cs : List Char) (seen : List Piece) (rest : List Char) :
    ∃ ps, List.Forall₂ Piece.Stands ps cs ∧
      readPieces seen (cs.flatMap escapeChar ++ '"' :: rest) = some (seen.reverse ++ ps, rest) := by
  induction cs generalizing seen with
  | nil => exact ⟨[], .nil, by simp [readPieces]⟩
  | cons c cs ih =>
    obtain ⟨p, hp, hread⟩ := readPieces_escapeChar c seen (cs.flatMap escapeChar ++ '"' :: rest)
    obtain ⟨ps, hps, hrest⟩ := ih (p :: seen)
    refine ⟨p :: ps, .cons hp hps, ?_⟩
    rw [List.flatMap_cons, List.append_assoc, hread, hrest, List.reverse_cons, List.append_assoc,
      List.singleton_append]

/-- A text is read back up to its closing quote. -/
theorem readString_escapeChar (s : String) (rest : List Char) :
    readString (s.toList.flatMap escapeChar ++ '"' :: rest) = some (some s, rest) := by
  obtain ⟨ps, hps, hread⟩ := readPieces_flatMap s.toList [] rest
  rw [readString, hread, Option.map_some]
  simp only [List.reverse_nil, List.nil_append, charsOfPieces_of_stands hps, Option.map_some,
    String.ofList_toList]

/-! ### Numbers -/

/-- Whether a number can go on with a character. -/
def continuesNumber (c : Char) : Bool :=
  c.isDigit || c == '.' || c == 'e' || c == 'E'

theorem ends_isDigit {rest : List Char} (h : Ends continuesNumber rest) :
    Ends Char.isDigit rest := by
  intro c hc
  have := h c hc
  simp only [continuesNumber, Bool.or_eq_false_iff] at this
  exact this.1.1.1

/-- Only zero itself begins with a zero. -/
theorem toDigits_ne_zero_cons (n : Nat) (d : Char) (ds : List Char) :
    Nat.toDigits 10 n ≠ '0' :: d :: ds := by
  intro heq
  have hnumeral := Text.numeral_toDigits n
  rw [heq] at hnumeral
  have hlt : n < 10 ^ (d :: ds).length :=
    Numeral.lt ⟨List.cons_ne_nil d ds, fun c hc => hnumeral.isDigit c (List.mem_cons_of_mem _ hc),
      by have := hnumeral.value; rwa [Nat.ofDigitChars_cons] at this⟩
  have hlength := (Nat.length_toDigits_le_iff (by decide) (Nat.succ_pos ds.length)).mpr hlt
  rw [heq, List.length_cons, List.length_cons] at hlength
  omega

theorem readWhole_toDigits (n : Nat) {rest : List Char} (h : Ends Char.isDigit rest) :
    readWhole (Nat.toDigits 10 n ++ rest) = some (Nat.toDigits 10 n, rest) := by
  have hnumeral := Text.numeral_toDigits n
  have hdigits : readDigits (Nat.toDigits 10 n ++ rest) = some (Nat.toDigits 10 n, rest) := by
    rw [readDigits, Text.takeWhile_append_of_ends hnumeral.isDigit h,
      Text.dropWhile_append_of_ends hnumeral.isDigit h]
    split
    · next heq => exact absurd heq hnumeral.ne_nil
    · rfl
  rw [readWhole, hdigits]
  split
  · next heq =>
    rw [Option.some.injEq, Prod.mk.injEq] at heq
    exact absurd heq.1 (toDigits_ne_zero_cons n _ _)
  · rfl

/-- The digits of a number are read as a number, without fraction and power. -/
theorem readNumber_toDigits (n : Nat) {rest : List Char} (h : Ends continuesNumber rest) :
    readNumber (Nat.toDigits 10 n ++ rest) = some (Nat.toDigits 10 n, rest) := by
  have hfraction : readFractionPart rest = some ([], rest) := by
    unfold readFractionPart
    split
    · exact absurd (h '.' rfl) (by decide)
    · rfl
  have hpower : readPower rest = some ([], rest) := by
    unfold readPower
    split
    · next e rest' =>
      refine if_neg ?_
      rintro (rfl | rfl)
      · exact absurd (h 'e' rfl) (by decide)
      · exact absurd (h 'E' rfl) (by decide)
    · rfl
  have hunsigned : readUnsigned (Nat.toDigits 10 n ++ rest) = some (Nat.toDigits 10 n, rest) := by
    simp [readUnsigned, readWhole_toDigits n (ends_isDigit h), hfraction, hpower]
  obtain ⟨c, ds, hcons, hc⟩ := (Text.numeral_toDigits n).exists_cons
  rw [hcons, List.cons_append] at hunsigned ⊢
  unfold readNumber
  split
  · next heq => exact absurd (List.cons.inj heq).1 (Text.ne_of_isDigit hc rfl)
  · exact hunsigned

/-- The digits of a number that fits in a word stand for it. -/
theorem ofText_toString {n : Nat} (h : n < Word.count 64) :
    Number.ofText (toString n) = .natural n := by
  have hnumeral := Text.numeral_toDigits n
  have htake := Text.takeWhile_append_of_ends hnumeral.isDigit (Text.ends_nil _)
  have hdrop := Text.dropWhile_append_of_ends hnumeral.isDigit (Text.ends_nil _)
  rw [List.append_nil] at htake hdrop
  have hunsigned : Number.ofUnsigned false (Nat.toDigits 10 n) = .natural n := by
    rw [Number.ofUnsigned, htake, hdrop, hnumeral.digits?]
    simp [h]
  obtain ⟨c, ds, hcons, hc⟩ := hnumeral.exists_cons
  rw [Number.ofText, Nat.toString_eq_repr, Nat.toList_repr]
  rw [hcons] at hunsigned ⊢
  split
  · next heq => exact absurd (List.cons.inj heq).1 (Text.ne_of_isDigit hc rfl)
  · exact hunsigned

end EntityForge.Json
