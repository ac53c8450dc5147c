import Mathlib.Data.List.TakeWhile
import Mathlib.Tactic.SplitIfs

/-!
# String literals

A source is read as code units of UTF-16. Before anything else the escapes that write a unit by its
number are translated; a backslash opens one unless an odd number of backslashes stands directly in
front of it. A string literal then goes from a quote to the next one, with no line end between them,
and a backslash in it begins an escape. A text between quotes is read back as it is just where it
has no quote, no backslash and no line end: whatever an escape stands for is shorter than the escape,
so a text with one cannot be its own value.
-/

namespace EntityForge.Java

/-! ### Code units -/

/-- The code units of a character. -/
def utf16 (c : Char) : List UInt16 :=
  if c.toNat < 0x10000 then [.ofNat c.toNat]
  else [.ofNat (0xd800 + (c.toNat - 0x10000) / 0x400),
    .ofNat (0xdc00 + (c.toNat - 0x10000) % 0x400)]

/-- The code units of a text. -/
def codeUnits (text : String) : List UInt16 := text.toList.flatMap utf16

/-- The code unit of a character that has one. -/
def unit (c : Char) : UInt16 := .ofNat c.toNat

/-! ### Reading a source -/

/-- What is left of a source. -/
structure Source where
  /-- Whether the number of backslashes directly in front is odd. -/
  odd : Bool
  /-- The code units. -/
  units : List UInt16

/-- The value of a hexadecimal digit. -/
def hexDigit? (c : UInt16) : Option UInt16 :=
  if unit '0' ≤ c ∧ c ≤ unit '9' then some (c - unit '0')
  else if unit 'A' ≤ c ∧ c ≤ unit 'F' then some (c - unit 'A' + 10)
  else if unit 'a' ≤ c ∧ c ≤ unit 'f' then some (c - unit 'a' + 10)
  else none

/-- The unit whose number four digits write, and the units behind them. -/
def numbered? : List UInt16 → Option (UInt16 × List UInt16)
  | a :: b :: c :: d :: rest => do
    let digits ← [a, b, c, d].mapM hexDigit?
    return (digits.foldl (fun value digit => 16 * value + digit) 0, rest)
  | _ => none

namespace Source

/-- The first unit of a source, with escapes by number translated, and what is left behind it. -/
def next? (s : Source) : Option (UInt16 × Source) :=
  match s.units with
  | [] => none
  | c :: rest =>
    if c = unit '\\' then
      if !s.odd && rest.head? == some (unit 'u') then
        (numbered? (rest.dropWhile (· == unit 'u'))).map fun p => (p.1, ⟨false, p.2⟩)
      else some (c, ⟨!s.odd, rest⟩)
    else some (c, ⟨false, rest⟩)

/-- Octal digits, so many at most, behind some of their number. -/
def octal : Nat → UInt16 → Source → UInt16 × Source
  | 0, value, s => (value, s)
  | n + 1, value, s =>
    match s.next? with
    | some (c, rest) =>
      if unit '0' ≤ c ∧ c ≤ unit '7' then octal n (8 * value + (c - unit '0')) rest else (value, s)
    | none => (value, s)

/-- What the letter of an escape stands for. -/
def escaped? (c : UInt16) : Option UInt16 :=
  [(unit 'b', 8), (unit 's', 32), (unit 't', 9), (unit 'n', 10), (unit 'f', 12), (unit 'r', 13),
    (unit '"', unit '"'), (unit '\'', unit '\''), (unit '\\', unit '\\')].lookup c

/-- How many octal digits an escape can have behind its first one. -/
def octalRoom (first : UInt16) : Nat := if first ≤ unit '3' then 2 else 1

/-- What an escape behind its backslash stands for, and what is left behind it. -/
def escape? (s : Source) : Option (UInt16 × Source) :=
  match s.next? with
  | none => none
  | some (c, rest) =>
    if unit '0' ≤ c ∧ c ≤ unit '7' then
      some (octal (octalRoom c) (c - unit '0') rest)
    else (escaped? c).map fun value => (value, rest)

/-- A source goes on in another one behind at least so many units. -/
def Passes (n : Nat) (s rest : Source) : Prop :=
  ∃ front, s.units = front ++ rest.units ∧ n ≤ front.length

theorem Passes.refl (s : Source) : Passes 0 s s := ⟨[], rfl, Nat.le_refl 0⟩

theorem Passes.trans {n m : Nat} {s s' s'' : Source} (h : Passes n s s') (h' : Passes m s' s'') :
    Passes (n + m) s s'' := by
  obtain ⟨front, hunits, hfront⟩ := h
  obtain ⟨back, hunits', hback⟩ := h'
  refine ⟨front ++ back, by rw [hunits, hunits', List.append_assoc], ?_⟩
  rw [List.length_append]
  exact Nat.add_le_add hfront hback

theorem Passes.mono {n m : Nat} {s s' : Source} (h : Passes n s s') (hle : m ≤ n) :
    Passes m s s' := by
  obtain ⟨front, hunits, hfront⟩ := h
  exact ⟨front, hunits, hle.trans hfront⟩

theorem Passes.length_le {n : Nat} {s s' : Source} (h : Passes n s s') :
    s'.units.length + n ≤ s.units.length := by
  obtain ⟨front, hunits, hfront⟩ := h
  rw [hunits, List.length_append]
  omega

variable {s rest : Source} {c : UInt16}

theorem numbered?_eq_some {units back : List UInt16} (h : numbered? units = some (c, back)) :
    ∃ front, units = front ++ back ∧ front.length = 4 := by
  unfold numbered? at h
  split at h
  · next a b c' d rest =>
    obtain ⟨digits, -, hback⟩ := Option.bind_eq_some_iff.mp h
    cases hback
    exact ⟨[a, b, c', d], rfl, rfl⟩
  · cases h

/-- A unit of a source is written as it is, or by its number, which takes more than one unit. -/
theorem next?_eq_some (h : s.next? = some (c, rest)) :
    s.units = c :: rest.units ∨ Passes 2 s rest := by
  unfold next? at h
  split at h
  · cases h
  · next first back hunits =>
    split_ifs at h with hslash hopens
    · obtain ⟨⟨value, tail⟩, hnumbered, heq⟩ := Option.map_eq_some_iff.mp h
      cases heq
      obtain ⟨digits, hdigits, hlength⟩ := numbered?_eq_some hnumbered
      refine .inr ⟨first :: back.takeWhile (· == unit 'u') ++ digits, ?_, ?_⟩
      · rw [hunits, List.cons_append, List.cons_append, List.append_assoc, ← hdigits,
          List.takeWhile_append_dropWhile]
      · simp only [List.cons_append, List.length_cons, List.length_append]
        omega
    · cases h
      exact .inl hunits
    · cases h
      exact .inl hunits

theorem passes_next? (h : s.next? = some (c, rest)) : Passes 1 s rest := by
  rcases next?_eq_some h with hunits | hpasses
  · exact ⟨[c], hunits, Nat.le_refl 1⟩
  · exact hpasses.mono (by decide)

theorem passes_octal (n : Nat) (value : UInt16) (s : Source) : Passes 0 s (octal n value s).2 := by
  induction n generalizing value s with
  | zero => exact .refl s
  | succ n ih =>
    rw [octal]
    split
    · next c rest hnext =>
      split_ifs
      · exact ((passes_next? hnext).trans (ih _ rest)).mono (Nat.zero_le _)
      · exact .refl s
    · exact .refl s

theorem passes_escape? (h : s.escape? = some (c, rest)) : Passes 1 s rest := by
  unfold escape? at h
  split at h
  · cases h
  · next first back hnext =>
    split_ifs at h
    · obtain rfl := (congrArg Prod.snd (Option.some.inj h) : _ = rest)
      exact (passes_next? hnext).trans (passes_octal _ _ back)
    · obtain ⟨value, -, heq⟩ := Option.map_eq_some_iff.mp h
      cases heq
      exact passes_next? hnext

theorem length_lt_of_next? (h : s.next? = some (c, rest)) : rest.units.length < s.units.length :=
  (passes_next? h).length_le

theorem length_le_of_escape? (h : s.escape? = some (c, rest)) :
    rest.units.length ≤ s.units.length :=
  (Nat.le_add_right _ 1).trans (passes_escape? h).length_le

/-- The inside of a string literal up to the quote that ends it: its value, and what is left behind
the quote. -/
def inside? (s : Source) : Option (List UInt16 × Source) :=
  match _ : s.next? with
  | none => none
  | some (c, rest) =>
    if c = unit '"' then some ([], rest)
    else if c = unit '\n' ∨ c = unit '\r' then none
    else if c = unit '\\' then
      match _ : rest.escape? with
      | none => none
      | some (value, rest') => (inside? rest').map fun p => (value :: p.1, p.2)
    else (inside? rest).map fun p => (c :: p.1, p.2)
termination_by s.units.length
decreasing_by
  · exact (length_le_of_escape? ‹_›).trans_lt (length_lt_of_next? ‹_›)
  · exact length_lt_of_next? ‹_›

end Source

/-- The value of the string literal that a source begins with, and the units behind the literal. No
literal begins with three quotes. -/
def stringLiteral? (units : List UInt16) : Option (List UInt16 × List UInt16) :=
  match Source.next? ⟨false, units⟩ with
  | none => none
  | some (c, rest) =>
    if c = unit '"' then
      match rest.inside? with
      | none => none
      | some (value, back) =>
        if value = [] ∧ (back.next?.map (·.1)) = some (unit '"') then none
        else some (value, back.units)
    else none

/-! ### Plain text -/

/-- Units that a literal can hold as they are. -/
def PlainUnits (units : List UInt16) : Prop :=
  ∀ c ∈ units, c ≠ unit '"' ∧ c ≠ unit '\\' ∧ c ≠ unit '\n' ∧ c ≠ unit '\r'

namespace Source

variable {s rest : Source} {c : UInt16} {value : List UInt16}

/-- A unit that is no backslash is read as it is. -/
theorem next?_cons (odd : Bool) {c : UInt16} (hc : c ≠ unit '\\') (back : List UInt16) :
    next? ⟨odd, c :: back⟩ = some (c, ⟨false, back⟩) := by
  simp only [next?, if_neg hc]

/-- Plain units are read as they are. -/
theorem inside?_plain (h : PlainUnits value) (odd : Bool) (back : List UInt16) :
    inside? ⟨odd, value ++ unit '"' :: back⟩ = some (value, ⟨false, back⟩) := by
  induction value generalizing odd with
  | nil =>
    rw [List.nil_append, inside?, next?_cons odd (by decide)]
    simp only [if_pos]
  | cons c value ih =>
    obtain ⟨⟨hquote, hslash, hfeed, hreturn⟩, hvalue⟩ := List.forall_mem_cons.mp h
    rw [List.cons_append, inside?, next?_cons odd hslash]
    simp only [hquote, hslash, hfeed, hreturn, or_self, if_false, ih hvalue, Option.map_some]

/-- The inside of a literal is no shorter than its value with a quote behind it, and as short as
that only where it is the value itself. -/
def Holds (s : Source) (value : List UInt16) (rest : Source) : Prop :=
  ∃ front, s.units = front ++ rest.units ∧ value.length + 1 ≤ front.length ∧
    (front.length = value.length + 1 → front = value ++ [unit '"'] ∧ PlainUnits value)

variable {s' : Source}

/-- What is written by more than one unit makes the inside longer than its value. -/
theorem Holds.of_passes (h : Passes 2 s s') (h' : Holds s' value rest) :
    Holds s (c :: value) rest := by
  obtain ⟨front, hunits, hfront⟩ := h
  obtain ⟨back, hunits', hback, -⟩ := h'
  have hlength : (front ++ back).length = front.length + back.length := List.length_append
  refine ⟨front ++ back, by rw [hunits, hunits', List.append_assoc], ?_, fun hsame => ?_⟩
  · rw [hlength, List.length_cons]
    omega
  · rw [hlength, List.length_cons] at hsame
    omega

theorem Holds.cons (hunits : s.units = c :: s'.units)
    (hc : c ≠ unit '"' ∧ c ≠ unit '\\' ∧ c ≠ unit '\n' ∧ c ≠ unit '\r')
    (h' : Holds s' value rest) : Holds s (c :: value) rest := by
  obtain ⟨back, hunits', hback, hsame⟩ := h'
  refine ⟨c :: back, by rw [hunits, hunits', List.cons_append], Nat.succ_le_succ hback, ?_⟩
  intro hlength
  obtain ⟨rfl, hplain⟩ := hsame (Nat.succ.inj hlength)
  exact ⟨rfl, List.forall_mem_cons.mpr ⟨hc, hplain⟩⟩

theorem holds_of_inside? (h : s.inside? = some (value, rest)) : Holds s value rest := by
  fun_induction inside? s generalizing value with
  | case1 => cases h
  | case2 s back hnext =>
    cases h
    rcases next?_eq_some hnext with hunits | ⟨front, hunits, hfront⟩
    · exact ⟨[unit '"'], hunits, Nat.le_refl 1, fun _ => ⟨rfl, List.forall_mem_nil _⟩⟩
    · exact ⟨front, hunits, (Nat.le_succ 1).trans hfront, fun hlength => absurd hlength (by
        rw [List.length_nil]
        omega)⟩
  | case3 => cases h
  | case4 => cases h
  | case5 s back letter behind hescape hnext _ _ ih =>
    obtain ⟨⟨tail, rest'⟩, htail, heq⟩ := Option.map_eq_some_iff.mp h
    cases heq
    exact .of_passes ((passes_next? hnext).trans (passes_escape? hescape)) (ih htail)
  | case6 s c back hnext hquote hend hslash ih =>
    obtain ⟨⟨tail, rest'⟩, htail, heq⟩ := Option.map_eq_some_iff.mp h
    cases heq
    rcases next?_eq_some hnext with hunits | hpasses
    · exact .cons hunits ⟨hquote, hslash, not_or.mp hend⟩ (ih htail)
    · exact .of_passes hpasses (ih htail)

end Source

theorem stringLiteral?_eq_some {units value back : List UInt16}
    (h : stringLiteral? (unit '"' :: units) = some (value, back)) :
    ∃ odd, Source.inside? ⟨false, units⟩ = some (value, ⟨odd, back⟩) := by
  rw [stringLiteral?, Source.next?_cons false (by decide)] at h
  simp only [if_pos] at h
  split at h
  · cases h
  · next value' rest hinside =>
    split_ifs at h
    cases h
    exact ⟨rest.odd, hinside⟩

/-- Units between quotes are read as they are, up to the second quote, just where they are plain. -/
theorem stringLiteral?_iff {value back : List UInt16}
    (hback : ∀ c ∈ back.head?, c ≠ unit '"' ∧ c ≠ unit '\\') :
    stringLiteral? (unit '"' :: (value ++ unit '"' :: back)) = some (value, back) ↔
      PlainUnits value := by
  constructor
  · intro h
    obtain ⟨odd, hinside⟩ := stringLiteral?_eq_some h
    obtain ⟨front, hunits, -, hsame⟩ := Source.holds_of_inside? hinside
    have hwhole : value ++ [unit '"'] ++ back = front ++ back := by
      rw [← hunits, List.append_assoc, List.singleton_append]
    have hfront : value ++ [unit '"'] = front := List.append_cancel_right hwhole
    exact (hsame (by rw [← hfront, List.length_append, List.length_singleton])).2
  · intro h
    have hblock : (Source.next? ⟨false, back⟩).map (·.1) ≠ some (unit '"') := by
      cases back with
      | nil => exact Option.some_ne_none _ |>.symm
      | cons c back =>
        obtain ⟨hquote, hslash⟩ := hback c rfl
        rw [Source.next?_cons false hslash]
        exact fun heq => hquote (Option.some.inj heq)
    rw [stringLiteral?, Source.next?_cons false (by decide)]
    simp only [if_pos, Source.inside?_plain h, hblock, and_false, if_false]

/-! ### Plain texts -/

/-- A text that a literal can hold as it is. -/
def IsPlain (text : String) : Prop := ∀ c ∈ text.toList, c ≠ '"' ∧ c ≠ '\\' ∧ c ≠ '\n' ∧ c ≠ '\r'

instance (text : String) : Decidable (IsPlain text) := List.decidableBAll _ text.toList

theorem ofNat_inj {m n : Nat} (hm : m < 0x10000) (hn : n < 0x10000) :
    UInt16.ofNat m = UInt16.ofNat n ↔ m = n := by
  rw [← UInt16.toNat_inj, UInt16.toNat_ofNat', UInt16.toNat_ofNat', Nat.mod_eq_of_lt hm,
    Nat.mod_eq_of_lt hn]

/-- The unit of an ASCII character is a unit of that character alone. -/
theorem unit_mem_utf16 {c d : Char} (hc : c.toNat < 0x80) : unit c ∈ utf16 d ↔ d = c := by
  have hd : d.toNat < 0x110000 := by
    have hvalid : d.toNat < 0xd800 ∨ 0xdfff < d.toNat ∧ d.toNat < 0x110000 := d.valid
    omega
  rw [utf16, unit, ← Char.toNat_inj]
  split_ifs with hsmall
  · rw [List.mem_singleton, ofNat_inj (by omega) hsmall, eq_comm]
  · -- the two units of a character beyond the first plane are surrogates
    rw [List.mem_cons, List.mem_singleton, ofNat_inj (by omega) (by omega), ofNat_inj (by omega) (by omega)]
    omega

theorem unit_mem_codeUnits {c : Char} (hc : c.toNat < 0x80) (text : String) :
    unit c ∈ codeUnits text ↔ c ∈ text.toList := by
  simp only [codeUnits, List.mem_flatMap, unit_mem_utf16 hc, exists_eq_right]

theorem plainUnits_codeUnits (text : String) : PlainUnits (codeUnits text) ↔ IsPlain text := by
  have hne : ∀ {α : Type} (x : α) (xs : List α), (∀ y ∈ xs, y ≠ x) ↔ x ∉ xs := fun x xs =>
    ⟨fun h hx => h x hx rfl, fun h y hy heq => h (heq ▸ hy)⟩
  simp only [PlainUnits, IsPlain, forall_and, hne]
  rw [unit_mem_codeUnits (by decide), unit_mem_codeUnits (by decide),
    unit_mem_codeUnits (by decide), unit_mem_codeUnits (by decide)]

end EntityForge.Java
