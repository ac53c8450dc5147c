import EntityForge.Proofs.CommandLine.Views
import EntityForge.Proofs.Text.Runs

/-!
# Switches of the journal

Four switches say how the journal is kept and what goes into it. They can stand anywhere on a command
line, before the command and behind it, and do not change the view of a reading. Two command lines
that differ in nothing else come to the same request, if both are understood, and to the same file
for the journal.
-/

namespace EntityForge.CommandLine

open EntityForge.Outcome (bind_eq_ok)

/-! ### Lines that differ in the journal -/

/-- The words of a switch of the journal. -/
inductive JournalSwitch : List String → Prop
  /-- Letters behind a dash, each of which counts. -/
  | letters {cs : List Char} : cs ≠ [] → (∀ c ∈ cs, c = 'v' ∨ c = 'q') →
    JournalSwitch [String.ofList ('-' :: cs)]
  /-- A long name that counts. -/
  | counted {name : String} : name = "verbose" ∨ name = "quiet" → JournalSwitch ["--" ++ name]
  /-- A long name with a value behind an equals sign. -/
  | attached {name : String} (value : String) : name = "log-level" ∨ name = "log-format" →
    JournalSwitch ["--" ++ name ++ "=" ++ value]
  /-- A long name with a value in the next word. -/
  | detached {name value : String} : name = "log-level" ∨ name = "log-format" →
    value.toList.head? ≠ some '-' → JournalSwitch ["--" ++ name, value]

/-- Two lines are the same but for switches of the journal, which can stand anywhere before two
dashes alone. -/
inductive DifferInJournal : List String → List String → Prop
  /-- Nothing is left of both lines. -/
  | nil : DifferInJournal [] []
  /-- Both lines have a word. -/
  | same {word : String} {words words' : List String} : word ≠ "--" →
    DifferInJournal words words' → DifferInJournal (word :: words) (word :: words')
  /-- Two dashes alone end the switches of both lines, and the words behind them are the same. -/
  | ends (words : List String) : DifferInJournal ("--" :: words) ("--" :: words)
  /-- The first line has a switch of the journal. -/
  | left {group words words' : List String} : JournalSwitch group →
    DifferInJournal words words' → DifferInJournal (group ++ words) words'
  /-- The second line has a switch of the journal. -/
  | right {group words words' : List String} : JournalSwitch group →
    DifferInJournal words words' → DifferInJournal words (group ++ words')

/-! ### A switch of the journal in one line -/

section Words

variable {program : Program} {spec : Spec} {commands : List Spec} {r r' r₁ : Reading} {word : String}
  {rest rest₁ rest₂ : List String}

theorem withLetters_journal (hspec : KeepsJournal spec) (v : View) {cs : List Char}
    (h : ∀ c ∈ cs, c = 'v' ∨ c = 'q') : v.withLetters spec cs = v := by
  induction cs generalizing v with
  | nil => rfl
  | cons c cs ih =>
    obtain ⟨hc, hcs⟩ := List.forall_mem_cons.mp h
    obtain ⟨s, hs, haction⟩ := hspec.letters c hc
    rw [View.withLetters, hs, Option.elim_some, v.withBare_of_count haction, ih _ hcs]

theorem ne_of_not_mem {cs : List Char} (h : '=' ∉ cs) : ∀ c ∈ cs, (c != '=') = true := by
  intro c hc
  simpa using fun heq : c = '=' => h (heq ▸ hc)

/-- A long name alone is looked up as it is. -/
theorem readLong_of_bare {name : String} (hname : '=' ∉ name.toList) {s : Switch}
    (hs : spec.switch? name = some s) :
    readLong program spec commands r name.toList rest = readBare program spec r s true := by
  have htake := Text.takeWhile_append_of_ends (ne_of_not_mem hname) (Text.ends_nil _)
  have hdrop := Text.dropWhile_append_of_ends (ne_of_not_mem hname) (Text.ends_nil _)
  rw [List.append_nil] at htake hdrop
  rw [readLong, htake, hdrop, String.ofList_toList, hs]

/-- A long name ends where an equals sign stands. -/
theorem readLong_of_attached {name : String} (hname : '=' ∉ name.toList) (value : String)
    {s : Switch} (hs : spec.switch? name = some s) :
    readLong program spec commands r (name.toList ++ '=' :: value.toList) rest =
      readAttached spec r s value := by
  rw [readLong, Text.takeWhile_append_cons _ (ne_of_not_mem hname) rfl,
    Text.dropWhile_append_cons _ (ne_of_not_mem hname) rfl, String.ofList_toList, hs]
  simp only [String.ofList_toList]

/-- A switch of the journal is one word, or a name and a value. -/
theorem JournalSwitch.word_or_detached {group : List String} (h : JournalSwitch group) :
    (∃ word, group = [word] ∧ JournalSwitch [word]) ∨
      ∃ name value : String, group = ["--" ++ name, value] ∧
        (name = "log-level" ∨ name = "log-format") ∧ value.toList.head? ≠ some '-' := by
  cases h with
  | letters hne hcs => exact .inl ⟨_, rfl, .letters hne hcs⟩
  | counted hname => exact .inl ⟨_, rfl, .counted hname⟩
  | attached value hname => exact .inl ⟨_, rfl, .attached value hname⟩
  | detached hname hvalue => exact .inr ⟨_, _, rfl, hname, hvalue⟩

theorem head_of_journal {word : String} {words : List String} (h : JournalSwitch (word :: words)) :
    word.toList.head? = some '-' := by
  cases h <;> simp

theorem not_mem_of_journal {name : String} (h : name ∈ journalNames) : '=' ∉ name.toList := by
  revert name
  decide

theorem ne_nil_of_journal {name : String} (h : name ∈ journalNames) : name.toList ≠ [] := by
  revert name
  decide

theorem counted_mem {name : String} (h : name = "verbose" ∨ name = "quiet") :
    name ∈ journalNames := by
  rcases h with rfl | rfl <;> decide

theorem level_mem {name : String} (h : name = "log-level" ∨ name = "log-format") :
    name ∈ journalNames := by
  rcases h with rfl | rfl <;> decide

theorem isJournal_of_switch? {name : String} (hname : name ∈ journalNames) {s : Switch}
    (hs : spec.switch? name = some s) : (Item.switch s).IsJournal := by
  rw [← (mem_of_switch? hs).2] at hname
  exact hname

/-- A switch of the journal in one word does not change the view. -/
theorem view_of_single (hspec : KeepsJournal spec) (hword : JournalSwitch [word])
    (htrailing : r.trailing = false) (h : readWord program spec commands r word rest = .ok r') :
    r'.view = r.view := by
  cases hword with
  | @letters cs hne hcs =>
    obtain ⟨c, body, rfl⟩ := List.exists_cons_of_ne_nil hne
    have hc : c ≠ '-' := by rcases hcs c List.mem_cons_self with rfl | rfl <;> decide
    rw [readWord_letters htrailing hc String.toList_ofList] at h
    rw [Reading.view_readLetters hspec h, withLetters_journal hspec _ hcs]
  | @counted name hname =>
    have hmem := counted_mem hname
    obtain ⟨s, hs, haction⟩ := hspec.names name hname
    have hlist : ("--" ++ name).toList = '-' :: '-' :: name.toList := by simp
    rw [readWord_long htrailing (ne_nil_of_journal hmem) hlist,
      readLong_of_bare (not_mem_of_journal hmem) hs] at h
    rw [(Reading.view_readBare (hspec.counted s (mem_of_switch? hs).1) h).1,
      View.withBare_of_count _ haction]
  | @attached name value hname =>
    have hmem := level_mem hname
    obtain ⟨s, hs, -⟩ := hspec.levels name hname
    have hlist : ("--" ++ name ++ "=" ++ value).toList =
        '-' :: '-' :: (name.toList ++ '=' :: value.toList) := by simp
    rw [readWord_long htrailing (by simp) hlist,
      readLong_of_attached (not_mem_of_journal hmem) value hs] at h
    rw [Reading.view_readAttached h,
      View.add_of_isJournal _ (isJournal_of_switch? hmem hs)]

/-- A switch of the journal can wait for its value, and once it has got it the view is what it
was. -/
theorem view_of_detached (hspec : KeepsJournal spec) {name value : String}
    (hname : name = "log-level" ∨ name = "log-format") (hvalue : value.toList.head? ≠ some '-')
    (htrailing : r.trailing = false)
    (h : readWord program spec commands r ("--" ++ name) rest₁ = .ok r₁) :
    r₁.isWaiting = true ∧ ∀ r₂, readWord program spec commands r₁ value rest₂ = .ok r₂ →
      r₂.view = r.view := by
  have hmem := level_mem hname
  obtain ⟨s, hs, haction⟩ := hspec.levels name hname
  have hread : readBare program spec r s true = .ok r₁ := by
    have hlist : ("--" ++ name).toList = '-' :: '-' :: name.toList := by simp
    rwa [readWord_long htrailing (ne_nil_of_journal hmem) hlist,
      readLong_of_bare (not_mem_of_journal hmem) hs] at h
  obtain ⟨hview, hnone⟩ :=
    Reading.view_readBare (hspec.counted s (mem_of_switch? hs).1) hread
  have hwaiting : r₁.view = { r.view with waiting := some (.switch s) } := by
    rw [hview, View.withBare, haction]
  have hpending : r₁.pending = some (.switch s, none) :=
    Reading.waiting_view.mp (by rw [hwaiting])
  have htrailing₁ : r₁.trailing = false := by
    rw [← Reading.trailing_view, hwaiting, Reading.trailing_view, htrailing]
  refine ⟨by rw [Reading.isWaiting, hpending]; rfl, fun r₂ h₂ => ?_⟩
  have hplain : IsPlain value := fun c body hlist => hvalue (by rw [hlist]; rfl)
  rw [readWord_value htrailing₁ hplain hpending] at h₂
  rw [← Except.ok.inj h₂, Reading.view_value hpending,
    View.add_of_isJournal _ (isJournal_of_switch? hmem hs), hwaiting, ← hnone]

end Words

/-! ### Two lines -/

/-- What the switches of a program and its commands are as to the journal, and what is needed of the
program for a word to name a command. -/
structure Program.KeepsJournal (program : Program) : Prop where
  /-- The program itself keeps the journal apart. -/
  spec : CommandLine.KeepsJournal program.spec
  /-- So do its commands. -/
  commands : ∀ c ∈ program.commands, CommandLine.KeepsJournal c
  /-- No command has a name that begins with a dash. -/
  names : ∀ c ∈ program.commands, c.name.toList.head? ≠ some '-'
  /-- The program has no operand. -/
  operand : program.spec.operand = none

section Lines

variable {program : Program} {spec : Spec} {r r' r₁ r₁' r₂ r₂' : Reading} {word : String}
  {words group words₁ words₂ rest : List String} {c : Spec}

theorem readCommand_cons (h : readCommand program spec r (word :: rest) = .ok r') :
    ∃ m, readWord program spec [] r word rest = .ok m ∧ readCommand program spec m rest = .ok r' :=
  bind_eq_ok.mp h

/-- A switch of the journal on the line of a command does not change the view. -/
theorem readCommand_journal (hspec : KeepsJournal spec) (hgroup : JournalSwitch group)
    (htrailing : r.trailing = false)
    (h : readCommand program spec r (group ++ words) = .ok r') :
    ∃ m, m.view = r.view ∧ readCommand program spec m words = .ok r' := by
  obtain ⟨word, rfl, hword⟩ | ⟨name, value, rfl, hname, hvalue⟩ := hgroup.word_or_detached
  · obtain ⟨m, hm, h⟩ := readCommand_cons h
    exact ⟨m, view_of_single hspec hword htrailing hm, h⟩
  · obtain ⟨m, hm, h⟩ := readCommand_cons h
    obtain ⟨m', hm', h⟩ := readCommand_cons h
    exact ⟨m', (view_of_detached hspec hname hvalue htrailing hm).2 m' hm', h⟩

/-- Readings of one view stay so over the same words. -/
theorem readCommand_same (hspec : KeepsJournal spec)
    (h₁ : readCommand program spec r₁ words = .ok r₁')
    (h₂ : readCommand program spec r₂ words = .ok r₂') (hview : r₁.view = r₂.view) :
    r₁'.view = r₂'.view := by
  induction words generalizing r₁ r₂ with
  | nil =>
    cases h₁
    cases h₂
    exact hview
  | cons word rest ih =>
    obtain ⟨m₁, hm₁, h₁⟩ := readCommand_cons h₁
    obtain ⟨m₂, hm₂, h₂⟩ := readCommand_cons h₂
    exact ih h₁ h₂ (readWord_congr hspec hm₁ hm₂ hview)

/-- Readings of one view stay so over the lines of a command that differ in the journal. -/
theorem readCommand_congr (hspec : KeepsJournal spec) (hdiffer : DifferInJournal words₁ words₂)
    (h₁ : readCommand program spec r₁ words₁ = .ok r₁')
    (h₂ : readCommand program spec r₂ words₂ = .ok r₂') (hview : r₁.view = r₂.view)
    (htrailing : r₁.trailing = false) : r₁'.view = r₂'.view := by
  induction hdiffer generalizing r₁ r₂ with
  | nil => exact readCommand_same hspec h₁ h₂ hview
  | ends words => exact readCommand_same hspec h₁ h₂ hview
  | same hne _ ih =>
    obtain ⟨m₁, hm₁, h₁⟩ := readCommand_cons h₁
    obtain ⟨m₂, hm₂, h₂⟩ := readCommand_cons h₂
    exact ih h₁ h₂ (readWord_congr hspec hm₁ hm₂ hview)
      (trailing_of_readWord hspec hne htrailing hm₁)
  | left hgroup _ ih =>
    obtain ⟨m, hm, h₁⟩ := readCommand_journal hspec hgroup htrailing h₁
    exact ih h₁ h₂ (hm.trans hview) ((trailing_eq_of_view hm).trans htrailing)
  | right hgroup _ ih =>
    have htrailing₂ := (trailing_eq_of_view hview).symm.trans htrailing
    obtain ⟨m, hm, h₂⟩ := readCommand_journal hspec hgroup htrailing₂ h₂
    exact ih h₁ h₂ (hview.trans hm.symm) htrailing

/-! ### The line of the program -/

theorem isWaiting_eq (r : Reading) : r.isWaiting = r.view.waiting.isSome := by
  rw [Reading.isWaiting, Reading.view]
  split
  · next h => rw [h]; rfl
  · next h => rw [h]; rfl
  · next h => rw [h, View.waiting_add]; rfl

/-- The command that a word names, unless the switches have ended or an item waits for its value. -/
def commandAt? (program : Program) (r : Reading) (word : String) : Option Spec :=
  if r.trailing || r.isWaiting then none else program.commands.find? (·.name == word)

theorem commandAt?_congr (hview : r₁.view = r₂.view) :
    commandAt? program r₁ word = commandAt? program r₂ word := by
  rw [commandAt?, commandAt?, isWaiting_eq, isWaiting_eq, hview, trailing_eq_of_view hview]

theorem head_of_commandAt? (hprogram : program.KeepsJournal)
    (h : commandAt? program r word = some c) : word.toList.head? ≠ some '-' := by
  rw [commandAt?] at h
  split_ifs at h
  have hname : c.name = word := by simpa using List.find?_some h
  exact hname ▸ hprogram.names c (List.mem_of_find?_eq_some h)

/-- Words before the command are read one by one, up to the word that names it. -/
theorem readProgram_cons (h : readProgram program r (word :: words) = .ok (r', some (c, rest))) :
    commandAt? program r word = none ∧
        (∃ m, readWord program program.spec program.commands r word words = .ok m ∧
          readProgram program m words = .ok (r', some (c, rest))) ∨
      commandAt? program r word = some c ∧ r' = r ∧ rest = words := by
  rw [readProgram] at h
  rw [commandAt?]
  split at h
  · next hinside =>
    rw [if_pos hinside]
    exact .inl ⟨rfl, bind_eq_ok.mp h⟩
  · next hinside =>
    rw [if_neg hinside]
    split at h
    · obtain ⟨-, -, h⟩ := bind_eq_ok.mp h
      cases h
    · split at h
      · next c' hc =>
        cases h
        exact .inr ⟨hc, rfl, rfl⟩
      · next hnone => exact .inl ⟨hnone, bind_eq_ok.mp h⟩

theorem mem_of_readProgram (h : readProgram program r words = .ok (r', some (c, rest))) :
    c ∈ program.commands := by
  induction words generalizing r with
  | nil => cases h
  | cons word words ih =>
    rcases readProgram_cons h with ⟨-, m, -, h⟩ | ⟨hcommand, -⟩
    · exact ih h
    · rw [commandAt?] at hcommand
      split_ifs at hcommand
      exact List.mem_of_find?_eq_some hcommand

/-- There is no command behind two dashes alone. -/
theorem trailing_of_readProgram (hoperand : program.spec.operand = none)
    (h : readProgram program r words = .ok (r', some (c, rest))) : r.trailing = false := by
  by_contra htrailing
  rw [Bool.not_eq_false] at htrailing
  cases words with
  | nil => cases h
  | cons word words =>
    rcases readProgram_cons h with ⟨-, m, hm, -⟩ | ⟨hcommand, -⟩
    · rw [readWord, htrailing, if_pos rfl] at hm
      obtain ⟨o, ho, -⟩ := Reading.view_readOperand hm
      rw [hoperand] at ho
      cases ho
    · rw [commandAt?, htrailing, Bool.true_or, if_pos rfl] at hcommand
      cases hcommand

/-- A switch of the journal before the command does not change the view. -/
theorem readProgram_journal (hprogram : program.KeepsJournal) (hgroup : JournalSwitch group)
    (h : readProgram program r (group ++ words) = .ok (r', some (c, rest))) :
    ∃ m, m.view = r.view ∧ readProgram program m words = .ok (r', some (c, rest)) := by
  have htrailing := trailing_of_readProgram hprogram.operand h
  obtain ⟨word, rfl, hword⟩ | ⟨name, value, rfl, hname, hvalue⟩ := hgroup.word_or_detached
  · rcases readProgram_cons h with ⟨-, m, hm, h⟩ | ⟨hcommand, -⟩
    · exact ⟨m, view_of_single hprogram.spec hword htrailing hm, h⟩
    · exact absurd (head_of_journal hword) (head_of_commandAt? hprogram hcommand)
  · rcases readProgram_cons h with ⟨-, m, hm, h⟩ | ⟨hcommand, -⟩
    · obtain ⟨hwaiting, hdone⟩ := view_of_detached hprogram.spec hname hvalue htrailing hm
      rcases readProgram_cons h with ⟨-, m', hm', h⟩ | ⟨hcommand, -⟩
      · exact ⟨m', hdone m' hm', h⟩
      · rw [commandAt?, hwaiting, Bool.or_true, if_pos rfl] at hcommand
        cases hcommand
    · exact absurd (head_of_journal (.detached hname hvalue))
        (head_of_commandAt? hprogram hcommand)

/-- Readings of one view stay so up to the command over lines that differ in the journal. The command
is the same, and the lines differ in the journal behind it. -/
theorem readProgram_congr (hprogram : program.KeepsJournal) {c₁ c₂ : Spec}
    {rest₁ rest₂ : List String} (hdiffer : DifferInJournal words₁ words₂)
    (h₁ : readProgram program r₁ words₁ = .ok (r₁', some (c₁, rest₁)))
    (h₂ : readProgram program r₂ words₂ = .ok (r₂', some (c₂, rest₂)))
    (hview : r₁.view = r₂.view) :
    c₁ = c₂ ∧ r₁'.view = r₂'.view ∧ DifferInJournal rest₁ rest₂ := by
  induction hdiffer generalizing r₁ r₂ with
  | nil => cases h₁
  | ends words =>
    have htrailing := trailing_of_readProgram hprogram.operand h₁
    rcases readProgram_cons h₁ with ⟨-, m, hm, h₁⟩ | ⟨hcommand, -⟩
    · rw [readWord_dashes htrailing] at hm
      cases hm
      cases trailing_of_readProgram hprogram.operand h₁
    · exact absurd rfl (head_of_commandAt? hprogram hcommand)
  | @same word _ _ _ hdiffer ih =>
    have hcommand : commandAt? program r₁ word = commandAt? program r₂ word :=
      commandAt?_congr hview
    rcases readProgram_cons h₁ with ⟨hnone₁, m₁, hm₁, h₁⟩ | ⟨hc₁, rfl, rfl⟩
    · rcases readProgram_cons h₂ with ⟨-, m₂, hm₂, h₂⟩ | ⟨hc₂, -⟩
      · exact ih h₁ h₂ (readWord_congr hprogram.spec hm₁ hm₂ hview)
      · rw [← hcommand, hnone₁] at hc₂
        cases hc₂
    · rcases readProgram_cons h₂ with ⟨hnone₂, -⟩ | ⟨hc₂, rfl, rfl⟩
      · rw [← hcommand, hc₁] at hnone₂
        cases hnone₂
      · rw [← hcommand, hc₁] at hc₂
        exact ⟨Option.some.inj hc₂, hview, hdiffer⟩
  | left hgroup _ ih =>
    obtain ⟨m, hm, h₁⟩ := readProgram_journal hprogram hgroup h₁
    exact ih h₁ h₂ (hm.trans hview)
  | right hgroup _ ih =>
    obtain ⟨m, hm, h₂⟩ := readProgram_journal hprogram hgroup h₂
    exact ih h₁ h₂ (hview.trans hm.symm)

end Lines

/-! ### Requests -/

theorem view_finish {spec : Spec} {r r' : Reading} (h : finish spec r = .ok r') :
    r'.view = r.view ∧ r'.pending = none := by
  obtain ⟨settled, hsettle, h⟩ := bind_eq_ok.mp h
  obtain ⟨-, -, h⟩ := bind_eq_ok.mp h
  obtain ⟨-, -, h⟩ := bind_eq_ok.mp h
  obtain rfl := Except.ok.inj h
  obtain ⟨hpending, hview, -⟩ := Reading.view_settle hsettle
  exact ⟨hview, hpending⟩

/-- Lines of one view end with the same items beside those of the journal. -/
theorem unlogged_congr {spec : Spec} {r₁ r₁' r₂ r₂' : Reading} (h₁ : finish spec r₁ = .ok r₁')
    (h₂ : finish spec r₂ = .ok r₂') (hview : r₁.view = r₂.view) : r₁'.unlogged = r₂'.unlogged := by
  obtain ⟨hview₁, hpending₁⟩ := view_finish h₁
  obtain ⟨hview₂, hpending₂⟩ := view_finish h₂
  have hview' : r₁'.view = r₂'.view := hview₁.trans (hview.trans hview₂.symm)
  rw [Reading.view_of_pending hpending₁, Reading.view_of_pending hpending₂] at hview'
  exact congrArg View.given hview'

/-- A line that is understood names a command, and its two parts are read to their ends. -/
theorem read_eq_ok {program : Program} {words : List String} {c : Spec} {outer inner : Reading}
    (h : program.read words = .ok (c, outer, inner)) :
    ∃ r rest r', readProgram program {} words = .ok (r, some (c, rest)) ∧
      readCommand program c {} rest = .ok r' ∧ finish program.spec r = .ok outer ∧
      finish c r' = .ok inner := by
  obtain ⟨⟨r, command?⟩, hprogram, h⟩ := bind_eq_ok.mp h
  cases command? with
  | none =>
    obtain ⟨-, -, h⟩ := bind_eq_ok.mp h
    cases h
  | some p =>
    obtain ⟨c', rest⟩ := p
    obtain ⟨r', hcommand, h⟩ := bind_eq_ok.mp h
    obtain ⟨inner', hinner, h⟩ := bind_eq_ok.mp h
    obtain ⟨outer', houter, h⟩ := bind_eq_ok.mp h
    cases h
    exact ⟨r, rest, r', hprogram, hcommand, houter, hinner⟩

namespace Reading

/-- Readings with the same items beside those of the journal. -/
theorem find?_congr {r₁ r₂ : Reading} (h : r₁.unlogged = r₂.unlogged) {key : String}
    (hkey : key ∉ journalNames) : r₁.find? key = r₂.find? key := by
  have hfind : ∀ r : Reading, r.find? key = r.unlogged.find? (·.item.key == key) := by
    intro r
    rw [find?, unlogged, List.find?_filter]
    refine congrArg (r.given.find? ·) (funext fun g => ?_)
    by_cases hg : g.item.key = key
    · simp [hg, Item.IsJournal, hkey]
    · simp [hg]
  rw [hfind, hfind, h]

theorem request_congr {r₁ r₂ : Reading} (h : r₁.unlogged = r₂.unlogged) (command : String) :
    r₁.request command = r₂.request command := by
  have hvalue : ∀ key, key ∉ journalNames → r₁.value? key = r₂.value? key := fun key hkey => by
    rw [value?, value?, find?_congr h hkey]
  have hon : ∀ key, key ∉ journalNames → r₁.isOn key = r₂.isOn key := fun key hkey => by
    rw [isOn, isOn, find?_congr h hkey]
  have hpath : ∀ key, key ∉ journalNames → r₁.path? key = r₂.path? key := fun key hkey => by
    rw [path?, path?, hvalue key hkey]
  have hoverrides : r₁.overrides = r₂.overrides := by
    rw [overrides, overrides, hvalue "prefix" (by decide), hvalue "package" (by decide),
      hvalue "template" (by decide), hpath "template-file" (by decide),
      hpath "source-root" (by decide), hpath "output-dir" (by decide), hon "overwrite" (by decide)]
  have hsource : r₁.source = r₂.source := by
    rw [source, source, hpath "" (by decide), hpath "config" (by decide), hoverrides]
  rw [request, request, hsource, hon "dry-run" (by decide), hon "json" (by decide),
    hpath "schema-json" (by decide)]

theorem file_congr {r₁ r₂ : Reading} (h : r₁.unlogged = r₂.unlogged) :
    r₁.keeping.file = r₂.keeping.file := by
  simp only [keeping, path?, value?, find?_congr h (show "log-file" ∉ journalNames by decide)]

theorem unlogged_above (inner outer : Reading) :
    (inner.above outer).unlogged = inner.unlogged ++ outer.unlogged := by
  rw [unlogged, above, List.filter_append]
  rfl

end Reading

/-- A command is as is asked for if the switches of the four names are. -/
theorem keepsJournal_of_actions {spec : Spec}
    (hcounted : ∀ s ∈ spec.switches, s.action = .count → (Item.switch s).IsJournal)
    (hletters : ['v', 'q'].all fun c => (spec.letter? c).map (·.action) = some .count)
    (hnames : ∀ name ∈ ["verbose", "quiet"], (spec.switch? name).map (·.action) = some .count)
    (hlevels : ∀ name ∈ ["log-level", "log-format"],
      (spec.switch? name).map (·.action) = some .take) : KeepsJournal spec where
  counted := hcounted
  letters c hc := Option.map_eq_some_iff.mp
    (of_decide_eq_true (List.all_eq_true.mp hletters c (by simpa using hc)))
  names name hname := Option.map_eq_some_iff.mp (hnames name (by simpa using hname))
  levels name hname := Option.map_eq_some_iff.mp (hlevels name (by simpa using hname))

theorem keepsJournal_entityProgram : entityProgram.KeepsJournal where
  spec := keepsJournal_of_actions (by decide) (by decide) (by decide) (by decide)
  commands := by
    have hgenerate : KeepsJournal generateSpec :=
      keepsJournal_of_actions (by decide) (by decide) (by decide) (by decide)
    have hinspect : KeepsJournal inspectSpec :=
      keepsJournal_of_actions (by decide) (by decide) (by decide) (by decide)
    have htypes : KeepsJournal typesSpec :=
      keepsJournal_of_actions (by decide) (by decide) (by decide) (by decide)
    simpa [entityProgram] using ⟨hgenerate, hinspect, htypes⟩
  names := by decide
  operand := rfl

/-- Two lines that differ in the journal and are both understood come to one request, and to one file
for the journal if there is any. -/
theorem readInvocation_congr {words₁ words₂ : List String} {i₁ i₂ : Invocation}
    (hdiffer : DifferInJournal words₁ words₂) (h₁ : readInvocation words₁ = .ok i₁)
    (h₂ : readInvocation words₂ = .ok i₂) :
    i₁.request = i₂.request ∧ i₁.keeping.file = i₂.keeping.file := by
  have hprogram := keepsJournal_entityProgram
  obtain ⟨⟨c₁, outer₁, inner₁⟩, hread₁, h₁⟩ := bind_eq_ok.mp h₁
  obtain ⟨⟨c₂, outer₂, inner₂⟩, hread₂, h₂⟩ := bind_eq_ok.mp h₂
  obtain ⟨r₁, rest₁, r₁', hline₁, hcommand₁, houter₁, hinner₁⟩ := read_eq_ok hread₁
  obtain ⟨r₂, rest₂, r₂', hline₂, hcommand₂, houter₂, hinner₂⟩ := read_eq_ok hread₂
  -- the two lines are in step up to the command, and behind it
  obtain ⟨rfl, hview, hrest⟩ := readProgram_congr hprogram hdiffer hline₁ hline₂ rfl
  have hspec := hprogram.commands c₁ (mem_of_readProgram hline₁)
  have hview' := readCommand_congr hspec hrest hcommand₁ hcommand₂ rfl rfl
  have hunlogged : (inner₁.above outer₁).unlogged = (inner₂.above outer₂).unlogged := by
    rw [Reading.unlogged_above, Reading.unlogged_above, unlogged_congr hinner₁ hinner₂ hview',
      unlogged_congr houter₁ houter₂ hview]
  obtain rfl := Except.ok.inj h₁
  obtain rfl := Except.ok.inj h₂
  exact ⟨Reading.request_congr hunlogged _, Reading.file_congr hunlogged⟩

end EntityForge.CommandLine
