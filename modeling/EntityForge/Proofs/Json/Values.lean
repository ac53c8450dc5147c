import EntityForge.Proofs.Json.Scalars

/-!
# Values read back

A value that is whole is written over several lines and read back as itself: its texts may have any
characters, its numbers are natural, and its containers nest to any depth. Each value is read as it
stands in a text, up to where no number can go on, and the length of its writing bounds how deep the
reading has to go.
-/

namespace EntityForge.Json

open Text (Ends ends_nil ends_cons)

/-- A whole value with natural numbers. -/
inductive Value.Writable : Value → Prop
  /-- The value `null`. -/
  | null : Writable .null
  /-- A truth value. -/
  | bool (b : Bool) : Writable (.bool b)
  /-- A natural number. -/
  | number (n : Nat) : Writable (.ofNat n)
  /-- A text. -/
  | string (s : String) : Writable (.ofString s)
  /-- An array of such values. -/
  | array {items : List Value} (h : ∀ v ∈ items, Writable v) : Writable (.ofList items)
  /-- An object of such values. -/
  | object {members : List (String × Value)} (h : ∀ m ∈ members, Writable m.2) :
    Writable (.ofMembers members)

/-- What is written of a value is read as the value at every level, whatever follows that does not
go on with a number. -/
def ReadBack (v : Value) : Prop :=
  ∀ (level fuel : Nat) (rest : List Char), (prettyAt level v).length ≤ fuel →
    Ends continuesNumber rest → readValue fuel (prettyAt level v ++ rest) = (v, some rest)

/-! ### White space -/

theorem skipSpace_cons {c : Char} (rest : List Char) (h : isSpace c = false) :
    skipSpace (c :: rest) = c :: rest := by
  rw [skipSpace, List.dropWhile_cons_of_neg (by rw [h]; decide)]

theorem isSpace_of_isDigit {c : Char} (h : c.isDigit = true) : isSpace c = false := by
  simp [isSpace, Text.ne_of_isDigit h (show ' '.isDigit = false from rfl),
    Text.ne_of_isDigit h (show '\n'.isDigit = false from rfl),
    Text.ne_of_isDigit h (show '\t'.isDigit = false from rfl),
    Text.ne_of_isDigit h (show '\r'.isDigit = false from rfl)]

theorem skipSpace_newLine (level : Nat) (rest : List Char) :
    skipSpace (newLine level ++ rest) = skipSpace rest := by
  refine List.dropWhile_append_of_pos fun c hc => ?_
  rcases List.mem_cons.mp hc with rfl | hc
  · decide
  · rw [List.eq_of_mem_replicate hc]
    decide

theorem readValue_of_skipSpace {cs cs' : List Char} (fuel : Nat)
    (h : skipSpace cs = skipSpace cs') : readValue fuel cs = readValue fuel cs' := by
  cases fuel with
  | zero => rfl
  | succ fuel => simp only [readValue, h]

theorem readItems_of_skipSpace {cs cs' : List Char} (fuel : Nat)
    (h : skipSpace cs = skipSpace cs') : readItems fuel cs = readItems fuel cs' := by
  cases fuel with
  | zero => rfl
  | succ fuel => simp only [readItems, readValue_of_skipSpace fuel h]

theorem readMembers_of_skipSpace {cs cs' : List Char} (fuel : Nat)
    (h : skipSpace cs = skipSpace cs') : readMembers fuel cs = readMembers fuel cs' := by
  cases fuel with
  | zero => rfl
  | succ fuel => simp only [readMembers, h]

theorem length_newLine (level : Nat) : (newLine level).length = 2 * level + 1 := by
  simp [newLine]

theorem ends_newLine (level : Nat) (rest : List Char) :
    Ends continuesNumber (newLine level ++ rest) :=
  ends_cons _ rfl

/-! ### Items -/

/-- Items of an array are read up to the closing bracket. -/
theorem readItems_pretty {level outer : Nat} {items : List Value}
    (hitems : ∀ v ∈ items, ReadBack v) {v : Value} (hv : ReadBack v) {fuel : Nat}
    (hfuel : (prettyAt level v ++ prettyItems level items).length < fuel) (rest : List Char) :
    readItems fuel (prettyAt level v ++ prettyItems level items ++ newLine outer ++ ']' :: rest) =
      (v :: items, some rest) := by
  induction items generalizing v fuel with
  | nil =>
    obtain ⟨fuel, rfl⟩ : ∃ n, fuel = n + 1 := ⟨fuel - 1, by omega⟩
    rw [prettyItems, List.append_nil] at hfuel ⊢
    rw [List.append_assoc, readItems, hv _ _ _ (by omega) (ends_newLine _ _)]
    simp only [skipSpace_newLine, skipSpace_cons rest (show isSpace ']' = false from rfl)]
  | cons v' items ih =>
    obtain ⟨fuel, rfl⟩ : ∃ n, fuel = n + 1 := ⟨fuel - 1, by omega⟩
    simp only [prettyItems, List.length_append, List.length_cons, length_newLine] at hfuel
    have hshort : (prettyAt level v' ++ prettyItems level items).length < fuel := by
      rw [List.length_append]
      omega
    have hrest := ih (fun w hw => hitems w (List.mem_cons_of_mem v' hw))
      (hitems v' List.mem_cons_self) hshort
    simp only [prettyItems, List.append_assoc, List.cons_append] at hrest ⊢
    rw [readItems, hv _ _ _ (by omega) (ends_cons _ (by rfl))]
    simp only [skipSpace_cons _ (show isSpace ',' = false from rfl),
      readItems_of_skipSpace fuel (skipSpace_newLine level _), hrest]

/-- A member as an object has it. -/
abbrev withKey (m : String × Value) : Option String × Value := (some m.1, m.2)

/-- A member as it is written. -/
def memberText (level : Nat) (m : String × Value) : List Char :=
  stringText m.1 ++ ':' :: ' ' :: prettyAt level m.2

theorem prettyMembers_cons (level : Nat) (m : String × Value)
    (members : List (String × Value)) :
    prettyMembers level ((m :: members).map withKey) =
      ',' :: (newLine level ++ memberText level m ++
        prettyMembers level (members.map withKey)) := by
  simp [prettyMembers, memberText]

/-- A member is read. Behind it more members follow a comma, and none follow a brace. -/
theorem readMembers_memberText {level fuel : Nat} {m : String × Value} (hm : ReadBack m.2)
    (hfuel : (memberText level m).length ≤ fuel) {rest : List Char}
    (hrest : Ends continuesNumber rest) :
    (∀ more, skipSpace rest = ',' :: more →
      readMembers (fuel + 1) (memberText level m ++ rest) =
        (withKey m :: (readMembers fuel more).1, (readMembers fuel more).2)) ∧
    (∀ after, skipSpace rest = '\x7d' :: after →
      readMembers (fuel + 1) (memberText level m ++ rest) = ([withKey m], some after)) := by
  rw [memberText, List.length_append, List.length_cons, List.length_cons] at hfuel
  simp only [memberText, stringText, List.cons_append, List.append_assoc, List.nil_append]
  have hspace : skipSpace (' ' :: (prettyAt level m.2 ++ rest)) =
      skipSpace (prettyAt level m.2 ++ rest) := rfl
  rw [readMembers, skipSpace_cons _ (by rfl)]
  simp only [readString_escapeChar, skipSpace_cons _ (show isSpace ':' = false from rfl),
    readValue_of_skipSpace fuel hspace, hm level fuel rest (by omega) hrest]
  constructor
  · intro more hmore
    simp only [hmore]
  · intro after hafter
    simp only [hafter]

/-- The members of an object are read up to the closing brace. -/
theorem readMembers_pretty {level outer : Nat} {members : List (String × Value)}
    (hmembers : ∀ m ∈ members, ReadBack m.2) {m : String × Value} (hm : ReadBack m.2)
    {fuel : Nat}
    (hfuel : (memberText level m ++ prettyMembers level (members.map withKey)).length < fuel)
    (rest : List Char) :
    readMembers fuel (memberText level m ++ prettyMembers level (members.map withKey) ++
        newLine outer ++ '\x7d' :: rest) = ((m :: members).map withKey, some rest) := by
  induction members generalizing m fuel with
  | nil =>
    obtain ⟨fuel, rfl⟩ : ∃ n, fuel = n + 1 := ⟨fuel - 1, by omega⟩
    rw [List.map_nil, prettyMembers, List.append_nil] at hfuel ⊢
    rw [List.append_assoc]
    refine (readMembers_memberText hm (by omega) (ends_newLine _ _)).2 rest ?_
    rw [skipSpace_newLine, skipSpace_cons rest (by rfl)]
  | cons m' members ih =>
    obtain ⟨fuel, rfl⟩ : ∃ n, fuel = n + 1 := ⟨fuel - 1, by omega⟩
    simp only [prettyMembers_cons, List.length_append, List.length_cons, length_newLine] at hfuel
    have hshort :
        (memberText level m' ++ prettyMembers level (members.map withKey)).length < fuel := by
      rw [List.length_append]
      omega
    have hrest := ih (fun w hw => hmembers w (List.mem_cons_of_mem m' hw))
      (hmembers m' List.mem_cons_self) hshort
    simp only [prettyMembers_cons, List.append_assoc, List.cons_append] at hrest ⊢
    rw [(readMembers_memberText hm (by omega) (ends_cons _ (by rfl))).1 _
      (skipSpace_cons _ (by rfl)), readMembers_of_skipSpace fuel (skipSpace_newLine level _), hrest]
    rfl

/-! ### Values -/

/-- A value is written from a character on that neither is white space nor closes an array. -/
theorem prettyAt_cons {v : Value} (h : v.Writable) (level : Nat) :
    ∃ c cs, prettyAt level v = c :: cs ∧ isSpace c = false ∧ c ≠ ']' := by
  cases h with
  | null => exact ⟨'n', _, rfl, rfl, by decide⟩
  | bool b =>
    cases b with
    | false => exact ⟨'f', _, rfl, rfl, by decide⟩
    | true => exact ⟨'t', _, rfl, rfl, by decide⟩
  | number n =>
    obtain ⟨c, cs, hcons, hc⟩ := (Text.numeral_toDigits n).exists_cons
    refine ⟨c, cs, ?_, isSpace_of_isDigit hc, Text.ne_of_isDigit hc rfl⟩
    rw [Value.ofNat, prettyAt, Nat.toString_eq_repr, Nat.toList_repr, hcons]
  | string s => exact ⟨'"', _, rfl, rfl, by decide⟩
  | @array items _ =>
    cases items with
    | nil => exact ⟨'[', _, rfl, rfl, by decide⟩
    | cons v items => exact ⟨'[', _, rfl, rfl, by decide⟩
  | @object members _ =>
    cases members with
    | nil => exact ⟨'\x7b', _, rfl, rfl, by decide⟩
    | cons m members => exact ⟨'\x7b', _, rfl, rfl, by decide⟩

/-- Every value has something written of it, so that reading it goes at least one level deep. -/
theorem readBack_of_succ {v : Value} (h : v.Writable)
    (hread : ∀ (level fuel : Nat) (rest : List Char), (prettyAt level v).length ≤ fuel + 1 →
      Ends continuesNumber rest →
        readValue (fuel + 1) (prettyAt level v ++ rest) = (v, some rest)) :
    ReadBack v := by
  intro level fuel rest hfuel hrest
  obtain ⟨c, cs, hcons, -⟩ := prettyAt_cons h level
  cases fuel with
  | zero => simp [hcons] at hfuel
  | succ fuel => exact hread level fuel rest hfuel hrest

theorem readBack_number (n : Nat) : ReadBack (.ofNat n) := by
  refine readBack_of_succ (.number n) ?_
  intro level fuel rest _ hrest
  obtain ⟨c, cs, hcons, hc⟩ := (Text.numeral_toDigits n).exists_cons
  have hread := readNumber_toDigits n hrest
  have hdigits : String.ofList (c :: cs) = toString n := by
    rw [← hcons, Nat.toString_eq_repr, Nat.repr]
  rw [hcons, List.cons_append] at hread
  rw [Value.ofNat, prettyAt, Nat.toString_eq_repr, Nat.toList_repr, hcons, List.cons_append,
    readValue, skipSpace_cons _ (isSpace_of_isDigit hc)]
  -- none of the characters that another kind of value begins with is a digit
  split
  · next heq => cases heq
  · next heq => exact absurd (List.cons.inj heq).1 (Text.ne_of_isDigit hc rfl)
  · next heq => exact absurd (List.cons.inj heq).1 (Text.ne_of_isDigit hc rfl)
  · next heq => exact absurd (List.cons.inj heq).1 (Text.ne_of_isDigit hc rfl)
  · next heq => exact absurd (List.cons.inj heq).1 (Text.ne_of_isDigit hc rfl)
  · next heq => exact absurd (List.cons.inj heq).1 (Text.ne_of_isDigit hc rfl)
  · next heq => exact absurd (List.cons.inj heq).1 (Text.ne_of_isDigit hc rfl)
  · rw [hread]
    simp only [hdigits, Nat.toString_eq_repr]

theorem readBack_string (s : String) : ReadBack (.ofString s) := by
  refine readBack_of_succ (.string s) ?_
  intro level fuel rest _ _
  have htext : prettyAt level (.ofString s) ++ rest =
      '"' :: (s.toList.flatMap escapeChar ++ '"' :: rest) := by
    simp [Value.ofString, prettyAt, stringText]
  rw [htext, readValue, skipSpace_cons _ (by rfl)]
  simp only [readString_escapeChar]
  rfl

theorem prettyAt_ofList_cons (level : Nat) (v : Value) (items : List Value) :
    prettyAt level (.ofList (v :: items)) =
      '[' :: (newLine (level + 1) ++ (prettyAt (level + 1) v ++ prettyItems (level + 1) items ++
        newLine level ++ [']'])) := by
  simp [Value.ofList, prettyAt]

theorem readBack_array {items : List Value} (hwritable : ∀ v ∈ items, v.Writable)
    (h : ∀ v ∈ items, ReadBack v) : ReadBack (.ofList items) := by
  refine readBack_of_succ (.array hwritable) ?_
  intro level fuel rest hfuel _
  cases items with
  | nil => rfl
  | cons v items =>
    have hlength : (prettyAt (level + 1) v ++ prettyItems (level + 1) items).length < fuel := by
      simp only [prettyAt_ofList_cons, List.length_cons, List.length_append, length_newLine]
        at hfuel ⊢
      omega
    have hread := @readItems_pretty (level + 1) level items
      (fun w hw => h w (List.mem_cons_of_mem v hw)) v (h v List.mem_cons_self) fuel hlength rest
    obtain ⟨c, cs, hcons, hspace, hbracket⟩ :=
      prettyAt_cons (hwritable v List.mem_cons_self) (level + 1)
    rw [prettyAt_ofList_cons, List.cons_append, readValue, skipSpace_cons _ (by rfl)]
    simp only [List.append_assoc, skipSpace_newLine, List.singleton_append] at hread ⊢
    rw [hcons] at hread ⊢
    simp only [List.cons_append, skipSpace_cons _ hspace] at hread ⊢
    split
    · next heq => exact absurd (List.cons.inj heq).1 hbracket
    · rw [hread]
      rfl

theorem prettyAt_ofMembers_cons (level : Nat) (m : String × Value)
    (members : List (String × Value)) :
    prettyAt level (.ofMembers (m :: members)) =
      '\x7b' :: (newLine (level + 1) ++ (memberText (level + 1) m ++
        prettyMembers (level + 1) (members.map withKey) ++ newLine level ++ ['\x7d'])) := by
  simp [Value.ofMembers, prettyAt, memberText]

theorem readBack_object {members : List (String × Value)}
    (hwritable : ∀ m ∈ members, m.2.Writable) (h : ∀ m ∈ members, ReadBack m.2) :
    ReadBack (.ofMembers members) := by
  refine readBack_of_succ (.object hwritable) ?_
  intro level fuel rest hfuel _
  cases members with
  | nil => rfl
  | cons m members =>
    have hlength : (memberText (level + 1) m ++
        prettyMembers (level + 1) (members.map withKey)).length < fuel := by
      simp only [prettyAt_ofMembers_cons, List.length_cons, List.length_append, length_newLine]
        at hfuel ⊢
      omega
    have hread := @readMembers_pretty (level + 1) level members
      (fun w hw => h w (List.mem_cons_of_mem m hw)) m (h m List.mem_cons_self) fuel hlength rest
    rw [prettyAt_ofMembers_cons, List.cons_append, readValue, skipSpace_cons _ (by rfl)]
    simp only [List.append_assoc, skipSpace_newLine, List.singleton_append] at hread ⊢
    rw [memberText, stringText, List.cons_append, List.cons_append] at hread ⊢
    rw [skipSpace_cons _ (by rfl)]
    split
    · next heq => exact absurd (List.cons.inj heq).1 (by decide)
    · rw [hread]
      rfl

/-- A value that can be written is read back. -/
theorem Value.Writable.readBack {v : Value} (h : v.Writable) : ReadBack v := by
  induction h with
  | null => exact readBack_of_succ .null fun _ _ _ _ _ => rfl
  | bool b =>
    refine readBack_of_succ (.bool b) fun _ _ _ _ _ => ?_
    cases b <;> rfl
  | number n => exact readBack_number n
  | string s => exact readBack_string s
  | array items ih => exact readBack_array items ih
  | object members ih => exact readBack_object members ih

theorem ends_isSpace {rest : List Char} (h : ∀ c ∈ rest, isSpace c = true) :
    Ends continuesNumber rest := by
  intro c hc
  have hspace := h c (List.mem_of_mem_head? hc)
  simp only [isSpace, Bool.or_eq_true, beq_iff_eq] at hspace
  rcases hspace with ((rfl | rfl) | rfl) | rfl <;> rfl

/-- A value that is written over several lines is read as itself, and as the whole of the text if
there is nothing but white space behind it. -/
theorem read_pretty_append {v : Value} (h : v.Writable) {rest : String}
    (hrest : ∀ c ∈ rest.toList, isSpace c = true) : read (v.pretty ++ rest) = (v, true) := by
  have hfuel : (prettyAt 0 v).length ≤ 2 * (v.pretty ++ rest).length + 1 := by
    rw [String.length_append, Value.pretty, String.length_ofList]
    omega
  have hread := h.readBack 0 _ rest.toList hfuel (ends_isSpace hrest)
  have hskip : skipSpace rest.toList = [] := List.dropWhile_eq_nil_iff.mpr hrest
  rw [read, String.toList_append, Value.pretty, String.toList_ofList, ← Value.pretty, hread]
  simp only [hskip, List.isEmpty_nil]

/-- A value that is written over several lines is read as itself, and as the whole of the text. -/
theorem read_pretty {v : Value} (h : v.Writable) : read v.pretty = (v, true) := by
  have hread : read (v.pretty ++ "") = (v, true) := read_pretty_append h nofun
  rwa [String.append_empty] at hread

end EntityForge.Json
