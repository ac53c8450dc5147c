import EntityForge.CommandLine.Invocation
import EntityForge.Proofs.Outcome

/-!
# Views of readings

A value is looked at only when the next item begins, so the readings of two lines that differ in the
switches of the journal are not in step. They are if a value counts as given from the start: what is
then left of a reading without the journal, its view, is changed by every word in a way that depends
on the view alone.
-/

namespace EntityForge.CommandLine

open EntityForge.Outcome (bind_eq_ok)

/-- The long names of the switches of the journal. -/
def journalNames : List String := ["verbose", "quiet", "log-level", "log-format"]

/-- An item is a switch of the journal. -/
def Item.IsJournal (item : Item) : Prop := item.key ∈ journalNames

instance (item : Item) : Decidable item.IsJournal :=
  inferInstanceAs (Decidable (item.key ∈ journalNames))

/-! ### Views -/

/-- What is left of a reading without the journal. -/
structure View where
  /-- The items that are given, whether their values have been looked at or not. -/
  given : List Given
  /-- The item that waits for its value. -/
  waiting : Option Item
  /-- Whether the switches have ended. -/
  trailing : Bool
  /-- Whether the operand has been met. -/
  operandMet : Bool

namespace View

/-- The view with one more item. -/
def add (v : View) (g : Given) : View :=
  if g.item.IsJournal then v else { v with given := v.given ++ [g] }

@[simp] theorem waiting_add (v : View) (g : Given) : (v.add g).waiting = v.waiting := by
  rw [add]
  split <;> rfl

@[simp] theorem trailing_add (v : View) (g : Given) : (v.add g).trailing = v.trailing := by
  rw [add]
  split <;> rfl

theorem add_of_isJournal (v : View) {g : Given} (h : g.item.IsJournal) : v.add g = v := by
  rw [add, if_pos h]

/-- The view after a switch that has no value behind an equals sign. -/
def withBare (v : View) (s : Switch) : View :=
  match s.action with
  | .turn => v.add { item := .switch s }
  | .take => { v with waiting := some (.switch s) }
  | .count | .showHelp | .showVersion => v

@[simp] theorem trailing_withBare (v : View) (s : Switch) :
    (v.withBare s).trailing = v.trailing := by
  rw [withBare]
  split <;> simp

theorem withBare_of_count (v : View) {s : Switch} (h : s.action = .count) : v.withBare s = v := by
  rw [withBare, h]

/-- The view after a long name. -/
def withLong (spec : Spec) (v : View) (body : List Char) : View :=
  match spec.switch? (String.ofList (body.takeWhile (· != '='))), body.dropWhile (· != '=') with
  | none, _ => v
  | some s, [] => v.withBare s
  | some s, _ :: value => v.add { item := .switch s, value := String.ofList value }

@[simp] theorem trailing_withLong (spec : Spec) (v : View) (body : List Char) :
    (v.withLong spec body).trailing = v.trailing := by
  rw [withLong]
  split <;> simp

/-- The view after letters. -/
def withLetters (spec : Spec) (v : View) : List Char → View
  | [] => v
  | c :: rest => withLetters spec ((spec.letter? c).elim v v.withBare) rest

@[simp] theorem trailing_withLetters (spec : Spec) (v : View) (cs : List Char) :
    (v.withLetters spec cs).trailing = v.trailing := by
  induction cs generalizing v with
  | nil => rfl
  | cons c cs ih =>
    rw [withLetters, ih]
    cases spec.letter? c <;> simp

end View

/-- What the switches of a command are as to the journal. -/
structure KeepsJournal (spec : Spec) : Prop where
  /-- Only switches of the journal are counted. -/
  counted : ∀ s ∈ spec.switches, s.action = .count → (Item.switch s).IsJournal
  /-- The two letters are counted. -/
  letters : ∀ c, c = 'v' ∨ c = 'q' → ∃ s, spec.letter? c = some s ∧ s.action = .count
  /-- So are their long names. -/
  names : ∀ name, name = "verbose" ∨ name = "quiet" →
    ∃ s, spec.switch? name = some s ∧ s.action = .count
  /-- The other two take a value. -/
  levels : ∀ name, name = "log-level" ∨ name = "log-format" →
    ∃ s, spec.switch? name = some s ∧ s.action = .take

theorem mem_of_switch? {spec : Spec} {long : String} {s : Switch} (h : spec.switch? long = some s) :
    s ∈ spec.switches ∧ s.long = long :=
  ⟨List.mem_of_find?_eq_some h, by simpa using List.find?_some h⟩

theorem mem_of_letter? {spec : Spec} {c : Char} {s : Switch} (h : spec.letter? c = some s) :
    s ∈ spec.switches := List.mem_of_find?_eq_some h

namespace Reading

/-- The items that do not belong to the journal. -/
def unlogged (r : Reading) : List Given :=
  r.given.filter fun g => ¬ g.item.IsJournal

/-- What is left of a reading without the journal. -/
def view (r : Reading) : View :=
  let v : View := ⟨r.unlogged, none, r.trailing, r.operandMet⟩
  match r.pending with
  | none => v
  | some (item, none) => { v with waiting := some item }
  | some (item, some value) => v.add { item, value }

variable {program : Program} {spec : Spec} {r r' : Reading}

@[simp] theorem trailing_view (r : Reading) : r.view.trailing = r.trailing := by
  rw [view]
  split <;> simp

theorem waiting_view {item : Item} :
    r.view.waiting = some item ↔ r.pending = some (item, none) := by
  rw [view]
  split
  · next h => simp [h]
  · next h => simp [h]
  · next h => simp [h]

theorem view_of_pending (h : r.pending = none) :
    r.view = ⟨r.unlogged, none, r.trailing, r.operandMet⟩ := by
  rw [view, h]

theorem view_add (h : r.pending = none) (g : Given) : (r.add g).view = r.view.add g := by
  rw [view_of_pending h, view_of_pending (r := r.add g) h]
  by_cases hg : g.item.IsJournal <;> simp [View.add, add, unlogged, List.filter_append, hg]

/-- The view once the switches have ended. -/
theorem view_ended (r : Reading) :
    { r with trailing := true }.view = { r.view with trailing := true } := by
  rw [view, view]
  cases r.pending with
  | none => rfl
  | some p =>
    obtain ⟨item, value?⟩ := p
    cases value? with
    | none => rfl
    | some value =>
      simp only [View.add]
      split <;> rfl

/-- The view once an item has got the value that it waits for. -/
theorem view_value {item : Item} (h : r.pending = some (item, none)) (value : String) :
    { r with pending := some (item, some value) }.view =
      { r.view with waiting := none }.add { item, value } := by
  rw [view, view, h]
  rfl

/-! ### Items -/

theorem addOnce_eq_ok {item : Item} {value : String} (h : addOnce spec r item value = .ok r') :
    r' = r.add { item, value } := by
  rw [addOnce] at h
  split at h
  · cases h
  · obtain ⟨-, -, h⟩ := bind_eq_ok.mp h
    exact (Except.ok.inj h).symm

/-- Looking at a value does not change the view, and it cannot be done while an item waits. -/
theorem view_settle (h : r.settle spec = .ok r') :
    r'.pending = none ∧ r'.view = r.view ∧ r.view.waiting = none := by
  rw [settle] at h
  split at h
  · next hpending =>
    cases h
    exact ⟨hpending, rfl, by rw [view_of_pending hpending]⟩
  · cases h
  · next item value hpending =>
    obtain rfl := addOnce_eq_ok h
    have hview : r.view = View.add ⟨r.unlogged, none, r.trailing, r.operandMet⟩ { item, value } := by
      rw [view, hpending]
    refine ⟨rfl, ?_, ?_⟩
    · rw [view_add rfl, hview]
      rfl
    · rw [hview, View.waiting_add]

theorem unlogged_drop {key : String} (h : key ∈ journalNames) :
    (r.drop key).unlogged = r.unlogged := by
  rw [unlogged, unlogged, drop, List.filter_filter]
  refine List.filter_congr fun g _ => ?_
  by_cases hkey : g.item.key = key
  · simp [Item.IsJournal, hkey, h]
  · simp [hkey]

/-- A switch without a value behind an equals sign changes the view by what it does, and there is
nothing that waits. The switches that are counted belong to the journal. -/
theorem view_readBare {s : Switch} {long : Bool}
    (hcount : s.action = .count → (Item.switch s).IsJournal)
    (h : readBare program spec r s long = .ok r') :
    r'.view = r.view.withBare s ∧ r.view.waiting = none := by
  obtain ⟨settled, hsettle, h⟩ := bind_eq_ok.mp h
  obtain ⟨hpending, hview, hwaiting⟩ := view_settle hsettle
  refine ⟨?_, hwaiting⟩
  rw [← hview, View.withBare]
  split at h
  · next haction =>
    rw [haction, addOnce_eq_ok h, view_add hpending]
  · next haction =>
    obtain rfl := (Except.ok.inj h).symm
    have hdrop : (settled.drop s.long).view = settled.view := by
      have hunlogged : (settled.drop s.long).unlogged = settled.unlogged :=
        unlogged_drop (hcount haction)
      rw [view_of_pending hpending, view_of_pending (r := settled.drop s.long) hpending, hunlogged]
      rfl
    rw [haction, view_add (r := settled.drop s.long) hpending, hdrop]
    exact View.add_of_isJournal _ (hcount haction)
  · next haction =>
    obtain rfl := (Except.ok.inj h).symm
    rw [haction, view_of_pending hpending]
    rfl
  · cases h
  · cases h

theorem view_readAttached {s : Switch} {value : String}
    (h : readAttached spec r s value = .ok r') :
    r'.view = r.view.add { item := .switch s, value } := by
  rw [readAttached] at h
  split at h
  · obtain ⟨settled, hsettle, h⟩ := bind_eq_ok.mp h
    obtain ⟨hpending, hview, -⟩ := view_settle hsettle
    rw [addOnce_eq_ok h, view_add hpending, hview]
  · cases h

theorem refuse_ne_ok {α : Type} {complaint : Complaint} {hints : List Hint} {usage : Option String}
    {a : α} : refuse complaint hints usage ≠ .ok a := nofun

theorem refuseWord_ne_ok {word : String} : refuseWord spec r word ≠ .ok r' := by
  rw [refuseWord]
  split_ifs <;> exact refuse_ne_ok

theorem refuseLong_ne_ok {commands : List Spec} {long : String} {rest : List String} :
    refuseLong spec commands r long rest ≠ .ok r' := by
  rw [refuseLong]
  split <;> exact refuse_ne_ok

/-- A word is read as an operand if one is expected and none has been met. -/
theorem view_readOperand {word : String} (h : readOperand spec r word = .ok r') :
    ∃ o, spec.operand = some o ∧
      r'.view = { r.view.add { item := .operand o, value := word } with operandMet := true } := by
  rw [readOperand] at h
  split at h
  · next o hoperand =>
    split_ifs at h
    · exact absurd h refuseWord_ne_ok
    · obtain ⟨settled, hsettle, h⟩ := bind_eq_ok.mp h
      obtain ⟨hpending, hview, -⟩ := view_settle hsettle
      obtain rfl := (Except.ok.inj h).symm
      refine ⟨o, hoperand, ?_⟩
      rw [← hview, view_of_pending hpending]
      rfl
  · exact absurd h refuseWord_ne_ok

theorem view_readLong (hspec : KeepsJournal spec) {commands : List Spec} {body : List Char}
    {rest : List String} (h : readLong program spec commands r body rest = .ok r') :
    r'.view = r.view.withLong spec body := by
  cases hs : spec.switch? (String.ofList (body.takeWhile (· != '='))) with
  | none =>
    rw [readLong, hs] at h
    exact absurd h refuseLong_ne_ok
  | some s =>
    cases hvalue : body.dropWhile (· != '=') with
    | nil =>
      rw [readLong, hs, hvalue] at h
      rw [View.withLong, hs, hvalue]
      exact (view_readBare (hspec.counted s (mem_of_switch? hs).1) h).1
    | cons c value =>
      rw [readLong, hs, hvalue] at h
      rw [View.withLong, hs, hvalue]
      exact view_readAttached h

theorem view_readLetters (hspec : KeepsJournal spec) {cs : List Char}
    (h : readLetters program spec r cs = .ok r') : r'.view = r.view.withLetters spec cs := by
  induction cs generalizing r with
  | nil =>
    cases h
    rfl
  | cons c cs ih =>
    rw [readLetters] at h
    split at h
    · next s hs =>
      obtain ⟨m, hm, h⟩ := bind_eq_ok.mp h
      rw [ih h, View.withLetters, hs, Option.elim_some,
        (view_readBare (hspec.counted s (mem_of_letter? hs)) hm).1]
    · exact absurd h refuse_ne_ok

end Reading

/-! ### Words -/

/-- A word is no switch: at most a dash alone begins with a dash. -/
def IsPlain (word : String) : Prop := ∀ c body, word.toList ≠ '-' :: c :: body

/-- A word is two dashes alone, a long name, letters, or no switch. -/
theorem word_cases (word : String) :
    word = "--" ∨ (∃ body, body ≠ [] ∧ word.toList = '-' :: '-' :: body) ∨
      (∃ c body, c ≠ '-' ∧ word.toList = '-' :: c :: body) ∨ IsPlain word := by
  by_cases hplain : IsPlain word
  · exact .inr (.inr (.inr hplain))
  · simp only [IsPlain, not_forall, not_not] at hplain
    obtain ⟨c, body, hword⟩ := hplain
    by_cases hc : c = '-'
    · subst hc
      cases body with
      | nil => exact .inl (String.toList_inj.mp hword)
      | cons c body => exact .inr (.inl ⟨c :: body, List.cons_ne_nil c body, hword⟩)
    · exact .inr (.inr (.inl ⟨c, body, hc, hword⟩))

section Words

variable {program : Program} {spec : Spec} {commands : List Spec} {r r' : Reading} {word : String}
  {rest : List String}

theorem readWord_dashes (h : r.trailing = false) :
    readWord program spec commands r "--" rest = .ok { r with trailing := true } := by
  rw [readWord, h]
  rfl

theorem readWord_long (h : r.trailing = false) {body : List Char} (hne : body ≠ [])
    (hword : word.toList = '-' :: '-' :: body) :
    readWord program spec commands r word rest = readLong program spec commands r body rest := by
  obtain ⟨c, body, rfl⟩ := List.exists_cons_of_ne_nil hne
  rw [readWord, h, hword]
  rfl

theorem readWord_letters (h : r.trailing = false) {c : Char} {body : List Char} (hc : c ≠ '-')
    (hword : word.toList = '-' :: c :: body) :
    readWord program spec commands r word rest = readLetters program spec r (c :: body) := by
  rw [readWord, h, if_neg Bool.false_ne_true, hword]
  split
  · next heq => exact absurd (List.cons.inj (List.cons.inj heq).2).1 hc
  · next heq => exact absurd (List.cons.inj (List.cons.inj heq).2).1 hc
  · next heq => cases heq; rfl
  · next hdash => exact absurd rfl (hdash _ _)
  · next hdash _ => exact absurd rfl (hdash _ _)

theorem readWord_value (h : r.trailing = false) (hword : IsPlain word) {item : Item}
    (hpending : r.pending = some (item, none)) :
    readWord program spec commands r word rest =
      .ok { r with pending := some (item, some word) } := by
  rw [readWord, h, if_neg Bool.false_ne_true]
  split
  · next hdash => exact absurd hdash (hword _ _)
  · next hdash => exact absurd hdash (hword _ _)
  · next hdash => exact absurd hdash (hword _ _)
  · next item' hpending' _ _ _ =>
    obtain ⟨rfl, -⟩ := Prod.mk.inj (Option.some.inj (hpending.symm.trans hpending'))
    rfl
  · next hnone => exact absurd hpending (hnone _)

theorem readWord_operand (h : r.trailing = false) (hword : IsPlain word)
    (hwaiting : r.view.waiting = none) :
    readWord program spec commands r word rest = readOperand spec r word := by
  rw [readWord, h, if_neg Bool.false_ne_true]
  split
  · next hdash => exact absurd hdash (hword _ _)
  · next hdash => exact absurd hdash (hword _ _)
  · next hdash => exact absurd hdash (hword _ _)
  · next item hpending _ _ _ =>
    rw [Reading.waiting_view.mpr hpending] at hwaiting
    cases hwaiting
  · rfl

/-! ### One word in two lines -/

variable {r₁ r₁' r₂ r₂' : Reading} {rest₁ rest₂ : List String}

theorem readOperand_congr (h₁ : readOperand spec r₁ word = .ok r₁')
    (h₂ : readOperand spec r₂ word = .ok r₂') (hview : r₁.view = r₂.view) :
    r₁'.view = r₂'.view := by
  obtain ⟨o, ho, hview₁⟩ := Reading.view_readOperand h₁
  obtain ⟨o', ho', hview₂⟩ := Reading.view_readOperand h₂
  obtain rfl : o = o' := Option.some.inj (ho.symm.trans ho')
  rw [hview₁, hview₂, hview]

theorem trailing_eq_of_view (h : r₁.view = r₂.view) : r₁.trailing = r₂.trailing := by
  rw [← Reading.trailing_view, h, Reading.trailing_view]

/-- A word does the same to readings of one view. -/
theorem readWord_congr (hspec : KeepsJournal spec)
    (h₁ : readWord program spec commands r₁ word rest₁ = .ok r₁')
    (h₂ : readWord program spec commands r₂ word rest₂ = .ok r₂') (hview : r₁.view = r₂.view) :
    r₁'.view = r₂'.view := by
  have htrailing₁ := trailing_eq_of_view hview
  cases htrailing₂ : r₂.trailing with
  | true =>
    rw [readWord, htrailing₂, if_pos rfl] at h₂
    rw [readWord, htrailing₁, htrailing₂, if_pos rfl] at h₁
    exact readOperand_congr h₁ h₂ hview
  | false =>
    rw [htrailing₂] at htrailing₁
    rcases word_cases word with rfl | ⟨body, hne, hword⟩ | ⟨c, body, hc, hword⟩ | hplain
    · rw [readWord_dashes htrailing₁] at h₁
      rw [readWord_dashes htrailing₂] at h₂
      rw [← Except.ok.inj h₁, ← Except.ok.inj h₂, Reading.view_ended, Reading.view_ended, hview]
    · rw [readWord_long htrailing₁ hne hword] at h₁
      rw [readWord_long htrailing₂ hne hword] at h₂
      rw [Reading.view_readLong hspec h₁, Reading.view_readLong hspec h₂, hview]
    · rw [readWord_letters htrailing₁ hc hword] at h₁
      rw [readWord_letters htrailing₂ hc hword] at h₂
      rw [Reading.view_readLetters hspec h₁, Reading.view_readLetters hspec h₂, hview]
    · cases hwaiting : r₂.view.waiting with
      | none =>
        rw [readWord_operand htrailing₁ hplain (hview ▸ hwaiting)] at h₁
        rw [readWord_operand htrailing₂ hplain hwaiting] at h₂
        exact readOperand_congr h₁ h₂ hview
      | some item =>
        have hpending₁ := Reading.waiting_view.mp (hview.symm ▸ hwaiting)
        have hpending₂ := Reading.waiting_view.mp hwaiting
        rw [readWord_value htrailing₁ hplain hpending₁] at h₁
        rw [readWord_value htrailing₂ hplain hpending₂] at h₂
        rw [← Except.ok.inj h₁, ← Except.ok.inj h₂, Reading.view_value hpending₁,
          Reading.view_value hpending₂, hview]

/-- Only two dashes alone end the switches. -/
theorem trailing_of_readWord (hspec : KeepsJournal spec) (hne : word ≠ "--")
    (htrailing : r.trailing = false) (h : readWord program spec commands r word rest = .ok r') :
    r'.trailing = false := by
  rw [← htrailing, ← r'.trailing_view, ← r.trailing_view]
  rcases word_cases word with rfl | ⟨body, hne, hword⟩ | ⟨c, body, hc, hword⟩ | hplain
  · exact absurd rfl hne
  · rw [readWord_long htrailing hne hword] at h
    rw [Reading.view_readLong hspec h, View.trailing_withLong]
  · rw [readWord_letters htrailing hc hword] at h
    rw [Reading.view_readLetters hspec h, View.trailing_withLetters]
  · cases hwaiting : r.view.waiting with
    | none =>
      rw [readWord_operand htrailing hplain hwaiting] at h
      obtain ⟨o, -, hview⟩ := Reading.view_readOperand h
      rw [hview, View.trailing_add]
    | some item =>
      have hpending := Reading.waiting_view.mp hwaiting
      rw [readWord_value htrailing hplain hpending] at h
      rw [← Except.ok.inj h, Reading.view_value hpending, View.trailing_add]

end Words

end EntityForge.CommandLine
