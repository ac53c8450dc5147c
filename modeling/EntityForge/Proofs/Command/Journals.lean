import EntityForge.Command.Session
import EntityForge.Proofs.CommandLine.JournalSwitches

/-!
# Journals of sessions

How a journal is kept changes nothing but the journal. Two sessions from one storage whose command
lines differ in the switches of the journal, and which may find another filter and another clock
around them, show the same, end with the same exit code and leave the same storage behind. In what is
told of errors the lines of the journal come first; behind them the same is told by both, and that is
nothing unless the request fails.
-/

namespace EntityForge.Command

open CommandLine (DifferInJournal Invocation JournalSwitch readInvocation)
open EntityForge.Outcome (toOption_eq_some)
open Generation (Failure)
open Storage (Tree)

/-! ### Errors -/

/-- A text is empty or ends with a line end. -/
def Ended (text : String) : Prop := text = "" ∨ ∃ front, text = front ++ "\n"

/-- The lines of a journal are whole. -/
theorem ended_text (h : Journal.Hand) (rs : List Journal.Record) : Ended (h.text rs) := by
  rw [Journal.Hand.text]
  induction rs using List.reverseRecOn with
  | nil => exact .inl rfl
  | append_singleton rs r =>
    refine .inr ⟨String.join (rs.map fun r => h.line r ++ "\n") ++ h.line r, ?_⟩
    simp [String.join_append, String.append_assoc]

/-- What is told of the errors of a request beside the journal. -/
def complaint : Except Failure String → String
  | .ok _ => ""
  | .error failure => s!"error: {failure.message}\n"

/-- What a request comes to with some lines of a journal. -/
theorem carryOut_eq (storage : Tree) (r : Request) (journal : String) :
    carryOut storage r journal =
      { storage := (r.run storage).1
        exitCode := if (r.run storage).2.isOk then 0 else 1
        output := (r.run storage).2.toOption.getD ""
        errors := journal ++ complaint (r.run storage).2 } := by
  rw [carryOut]
  split
  · next h => simp [h, complaint, Except.isOk, Except.toBool, Except.toOption]
  · next h => simp [h, complaint, Except.isOk, Except.toBool, Except.toOption]

theorem session_of_read {s : Surroundings} {storage : Tree} {words : List String} {i : Invocation}
    (hread : readInvocation words = .ok i) (hfile : i.keeping.file = none) :
    session s storage words =
      carryOut storage i.request (journalText s i.keeping storage i.request) := by
  rw [session, hread]
  simp only [invoke, hfile]

/-! ### Two sessions -/

/-- Two sessions whose lines differ in the journal, are both understood and name no file for it do
the same to the storage, end alike and show the same. Behind the journal of each, which has whole
lines, they tell the same: nothing if they end well, and the message of the failure otherwise. -/
theorem session_congr {s s' : Surroundings} {storage : Tree} {words words' : List String}
    {i i' : Invocation} (hdiffer : DifferInJournal words words')
    (hread : readInvocation words = .ok i) (hread' : readInvocation words' = .ok i')
    (hfile : i.keeping.file = none) :
    (session s' storage words').storage = (session s storage words).storage ∧
      (session s' storage words').exitCode = (session s storage words).exitCode ∧
      (session s' storage words').output = (session s storage words).output ∧
      ∃ journal journal' told, Ended journal ∧ Ended journal' ∧
        (session s storage words).errors = journal ++ told ∧
        (session s' storage words').errors = journal' ++ told ∧
        ((session s storage words).exitCode = 0 ∧ told = "" ∨
          (session s storage words).exitCode = 1 ∧
            ∃ failure : Failure, told = "error: " ++ failure.message ++ "\n") := by
  obtain ⟨hrequest, hkeeping⟩ := CommandLine.readInvocation_congr hdiffer hread hread'
  have hfile' : i'.keeping.file = none := hkeeping ▸ hfile
  rw [session_of_read hread hfile, session_of_read hread' hfile', ← hrequest, carryOut_eq,
    carryOut_eq]
  refine ⟨rfl, rfl, rfl, _, _, _, ended_text _ _, ended_text _ _, rfl, rfl, ?_⟩
  cases (i.request.run storage).2 with
  | ok output => exact .inl ⟨rfl, rfl⟩
  | error failure => exact .inr ⟨rfl, failure, rfl⟩

/-- The switches of the journal can stand anywhere: before the command, between its words and at the
end. -/
theorem differInJournal_generate :
    DifferInJournal ["generate", "a.pdm"]
      ["-vv", "generate", "--log-format=json", "a.pdm", "--log-level", "debug"] := by
  have hletters : JournalSwitch ["-vv"] := @JournalSwitch.letters ['v', 'v'] (by decide) (by simp)
  have hform : JournalSwitch ["--log-format=json"] := .attached "json" (.inr rfl)
  have hlevel : JournalSwitch ["--log-level", "debug"] := .detached (.inl rfl) (by decide)
  exact .right hletters (.same (by decide) (.right hform (.same (by decide)
    (.right hlevel .nil))))

/-- A document that is missing is told of in the same words, whatever the journal tells. -/
theorem session_missing : ∃ journal journal' told,
    (session ⟨none, ⟨"", ""⟩⟩ {} ["generate", "a.pdm"]).errors = journal ++ told ∧
      (session ⟨some "trace", ⟨"", ""⟩⟩ {}
        ["-vv", "generate", "--log-format=json", "a.pdm", "--log-level", "debug"]).errors =
        journal' ++ told ∧
      ∃ failure : Failure, told = "error: " ++ failure.message ++ "\n" := by
  have hread : readInvocation ["generate", "a.pdm"] =
      .ok ⟨{}, .generate { source := { document := ⟨"a.pdm"⟩ } }⟩ :=
    toOption_eq_some.mp (by decide +kernel)
  have hread' : readInvocation
      ["-vv", "generate", "--log-format=json", "a.pdm", "--log-level", "debug"] =
      .ok ⟨{ verbose := 2, level := some .debug, form := .json },
        .generate { source := { document := ⟨"a.pdm"⟩ } }⟩ :=
    toOption_eq_some.mp (by decide +kernel)
  obtain ⟨-, -, -, journal, journal', told, -, -, herrors, herrors', hend⟩ :=
    @session_congr ⟨none, ⟨"", ""⟩⟩ ⟨some "trace", ⟨"", ""⟩⟩ {} _ _ _ _ differInJournal_generate
      hread hread' rfl
  have hexit : (session ⟨none, ⟨"", ""⟩⟩ {} ["generate", "a.pdm"]).exitCode = 1 := by
    decide +kernel
  rcases hend with ⟨hzero, -⟩ | ⟨-, hfailure⟩
  · rw [hexit] at hzero
    cases hzero
  · exact ⟨journal, journal', told, herrors, herrors', hfailure⟩

end EntityForge.Command
