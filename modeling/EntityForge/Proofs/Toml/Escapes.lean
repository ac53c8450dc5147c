import EntityForge.Toml.Unescaped
import Mathlib.Tactic.IntervalCases
import Mathlib.Tactic.SplitIfs

/-!
# Escapes read back

A text between quotes stands for the text that it was written for, whatever characters it has.
Between double quotes each character is written as one piece that stands for it: as it is, by a
letter or by its number. Double quotes are the exception where three of them are the end: up to two
may stand there as they are, and only then is one escaped.
-/

namespace EntityForge.Toml

/-! ### Pieces between double quotes -/

/-- A piece that stands for a character between double quotes. -/
inductive Stands (long : Bool) (c : Char) : List Char → Prop
  /-- The character as it is. -/
  | plain : c ≠ '"' → c ≠ '\\' → isControl c = false → (c = '\n' → long = true) →
    Stands long c [c]
  /-- The letter of an escape. -/
  | letter (e : Char) : letterEscape? e = some c → Stands long c ['\\', e]
  /-- The number of a control character. -/
  | code : isControl c = true → Stands long c (codeEscape c)

/-- A character other than a double quote is written as a piece that stands for it. -/
theorem stands_escapedChar (long : Bool) {c : Char} (hquote : c ≠ '"') :
    Stands long c (escapedChar long c) := by
  unfold escapedChar
  split_ifs with hbackslash hback htab hline hlong hfeed hreturn hcontrol
  · exact .letter '\\' (by rw [hbackslash]; rfl)
  · exact .letter 'b' (by rw [hback]; rfl)
  · exact .letter 't' (by rw [htab]; rfl)
  · subst hline
    exact .plain hquote hbackslash rfl fun _ => hlong
  · exact .letter 'n' (by rw [hline]; rfl)
  · exact .letter 'f' (by rw [hfeed]; rfl)
  · exact .letter 'r' (by rw [hreturn]; rfl)
  · exact .code hcontrol
  · exact .plain hquote hbackslash (Bool.eq_false_iff.mpr hcontrol) fun h => absurd h hline

theorem stands_escapedQuote (long : Bool) : Stands long '"' ['\\', '"'] := .letter '"' rfl

/-- The letter of an escape is no blank. -/
theorem not_blank_of_letterEscape? {e c : Char} (h : letterEscape? e = some c) :
    e ≠ ' ' ∧ e ≠ '\t' ∧ e ≠ '\n' ∧ e ≠ '\r' := by
  refine ⟨?_, ?_, ?_, ?_⟩ <;> (rintro rfl; cases h)

/-- A piece does not begin with a double quote. -/
theorem Stands.exists_cons {long : Bool} {c : Char} {piece : List Char} (h : Stands long c piece) :
    ∃ d rest, piece = d :: rest ∧ d ≠ '"' := by
  cases h with
  | plain hquote => exact ⟨c, [], rfl, hquote⟩
  | letter e => exact ⟨'\\', [e], rfl, by decide⟩
  | code => exact ⟨'\\', _, rfl, by decide⟩

/-- A text begins with a double quote that stands there as it is, or with a piece for its first
character. -/
theorem escapedFrom_cons (long : Bool) (run : Nat) (c : Char) (cs : List Char) :
    (c = '"' ∧ long = true ∧ run < 2 ∧
        escapedFrom long run (c :: cs) = '"' :: escapedFrom long (run + 1) cs) ∨
      ∃ piece, Stands long c piece ∧
        escapedFrom long run (c :: cs) = piece ++ escapedFrom long 0 cs := by
  rw [escapedFrom]
  by_cases hquote : c = '"'
  · rw [if_pos hquote]
    by_cases hraw : (long && decide (run < 2)) = true
    · rw [if_pos hraw]
      rw [Bool.and_eq_true, decide_eq_true_eq] at hraw
      exact .inl ⟨hquote, hraw.1, hraw.2, rfl⟩
    · rw [if_neg hraw]
      exact .inr ⟨['\\', '"'], by rw [hquote]; exact stands_escapedQuote long, rfl⟩
  · rw [if_neg hquote]
    exact .inr ⟨_, stands_escapedChar long hquote, rfl⟩

/-! ### What pieces stand for -/

theorem hexDigit?_upperHexDigit {n : Nat} (h : n < 16) : hexDigit? (upperHexDigit n) = some n := by
  interval_cases n <;> rfl

theorem toNat_lt_of_isControl {c : Char} (h : isControl c = true) : c.toNat < 128 := by
  simp only [isControl, Bool.or_eq_true, Bool.and_eq_true, decide_eq_true_eq, beq_iff_eq] at h
  omega

/-- The escape of a control character by its number is read as that character. -/
theorem escape_code {c : Char} (h : isControl c = true) (place : Nat) (rest : List Char) :
    escape place ((codeEscape c).tail ++ rest) = .ok (c, rest) := by
  have hlt := toNat_lt_of_isControl h
  have hhigh := hexDigit?_upperHexDigit (show c.toNat / 16 < 16 by omega)
  have hlow := hexDigit?_upperHexDigit (show c.toNat % 16 < 16 by omega)
  have hzero : hexDigit? '0' = some 0 := rfl
  have hnumber : numberOf 16
      ['0', '0', upperHexDigit (c.toNat / 16), upperHexDigit (c.toNat % 16)] = c.toNat := by
    simp only [numberOf, List.foldl_cons, List.foldl_nil, hhigh, hlow, hzero, Option.getD_some]
    omega
  have hvalid : c.toNat.isValidChar := c.valid
  simp [codeEscape, escape, letterEscape?, numberEscape?, hhigh, hlow, hzero, hnumber, hvalid,
    pure, Except.pure]

theorem joinedLine?_cons {e : Char} (rest : List Char)
    (h : e ≠ ' ' ∧ e ≠ '\t' ∧ e ≠ '\n' ∧ e ≠ '\r') : joinedLine? (e :: rest) = none := by
  have hdrop : (e :: rest).dropWhile (fun c => c == ' ' || c == '\t') = e :: rest :=
    List.dropWhile_cons_of_neg (by simp [h.1, h.2.1])
  rw [joinedLine?, hdrop]
  split
  · next heq => exact absurd (List.cons.inj heq).1 h.2.2.1
  · next heq => exact absurd (List.cons.inj heq).1 h.2.2.2
  · rfl

variable {form : QuoteForm} {stop n : Nat} {rest ds : List Char}

/-- An escape stands for its character in front of what the rest stands for. -/
theorem unescapedFrom_escape (hescapes : form.hasEscapes = true) {e c : Char} {tail : List Char}
    (he : e ≠ ' ' ∧ e ≠ '\t' ∧ e ≠ '\n' ∧ e ≠ '\r')
    (hescape : ∀ place, escape place (e :: tail) = .ok (c, rest))
    (hrest : unescapedFrom form stop n rest = .ok ds) :
    unescapedFrom form stop (n + 1) ('\\' :: e :: tail) = .ok (c :: ds) := by
  have hjoined : (if form.isLong then joinedLine? (e :: tail) else none) = none := by
    rw [joinedLine?_cons tail he, ite_self]
  simp [unescapedFrom, hescapes, hjoined, hescape, hrest, bind, Except.bind, pure, Except.pure]

/-- A character that may stand for itself does so. -/
theorem unescapedFrom_plain {c : Char} (hc : c ≠ '\\' ∨ form.hasEscapes = false)
    (hrefuses : form.refuses c rest = false) (hrest : unescapedFrom form stop n rest = .ok ds) :
    unescapedFrom form stop (n + 1) (c :: rest) = .ok (c :: ds) := by
  have hescape : (decide (c = '\\') && form.hasEscapes) = false := by
    rcases hc with hc | hc <;> simp [hc]
  simp [unescapedFrom, hescape, hrefuses, hrest, bind, Except.bind, pure, Except.pure]

theorem refuses_eq_false {c : Char} (hcontrol : isControl c = false)
    (hline : c = '\n' → form.isLong = true) (rest : List Char) : form.refuses c rest = false := by
  have hreturn : c ≠ '\r' := by
    rintro rfl
    cases hcontrol
  rw [QuoteForm.refuses, if_neg hreturn, hcontrol]
  by_cases h : c = '\n' <;> simp [h, hline]

/-- A piece stands for its character in front of what the rest stands for. -/
theorem Stands.unescapedFrom {c : Char} {piece : List Char} (h : Stands form.isLong c piece)
    (hescapes : form.hasEscapes = true) (hrest : unescapedFrom form stop n rest = .ok ds) :
    unescapedFrom form stop (n + 1) (piece ++ rest) = .ok (c :: ds) := by
  cases h with
  | plain hquote hbackslash hcontrol hline =>
    exact unescapedFrom_plain (.inl hbackslash) (refuses_eq_false hcontrol hline rest) hrest
  | letter e he =>
    refine unescapedFrom_escape hescapes (not_blank_of_letterEscape? he) (fun place => ?_) hrest
    simp [escape, he, pure, Except.pure]
  | code hcontrol =>
    exact unescapedFrom_escape hescapes (by decide) (fun place => escape_code hcontrol place rest)
      hrest

/-- What is written for a text between double quotes stands for the text. -/
theorem unescapedFrom_escapedFrom (hescapes : form.hasEscapes = true) {cs : List Char} (run : Nat)
    (hn : cs.length ≤ n) : unescapedFrom form stop n (escapedFrom form.isLong run cs) = .ok cs := by
  induction cs generalizing run n with
  | nil =>
    rw [escapedFrom]
    cases n <;> rfl
  | cons c cs ih =>
    obtain ⟨n, rfl⟩ := Nat.exists_eq_add_one.mpr (Nat.zero_lt_of_lt hn)
    rw [List.length_cons, Nat.add_le_add_iff_right] at hn
    rcases escapedFrom_cons form.isLong run c cs with ⟨rfl, _, _, heq⟩ | ⟨piece, hpiece, heq⟩
    · rw [heq]
      exact unescapedFrom_plain (.inl (by decide))
        (refuses_eq_false rfl (fun h => absurd h (by decide)) _) (ih _ hn)
    · rw [heq]
      exact hpiece.unescapedFrom hescapes (ih 0 hn)

/-- Between single quotes a text stands for itself. -/
theorem unescapedFrom_self (hescapes : form.hasEscapes = false) {cs : List Char}
    (hcs : ∀ c ∈ cs, isControl c = false ∧ (c = '\n' → form.isLong = true)) (hn : cs.length ≤ n) :
    unescapedFrom form stop n cs = .ok cs := by
  induction cs generalizing n with
  | nil => cases n <;> rfl
  | cons c cs ih =>
    obtain ⟨n, rfl⟩ := Nat.exists_eq_add_one.mpr (Nat.zero_lt_of_lt hn)
    rw [List.length_cons, Nat.add_le_add_iff_right] at hn
    have hc := hcs c List.mem_cons_self
    exact unescapedFrom_plain (.inr hescapes) (refuses_eq_false hc.1 hc.2 cs)
      (ih (fun d hd => hcs d (List.mem_cons_of_mem c hd)) hn)

end EntityForge.Toml
