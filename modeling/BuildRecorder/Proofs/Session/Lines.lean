import BuildRecorder.Proofs.Compiler.Sources
import BuildRecorder.Proofs.Session.Run
import BuildRecorder.Proofs.Store.Close
import BuildRecorder.Session.Lines

/-!
# Sessions over the lines of an input

A session takes the lines up to the first at which its store fails, and is closed however that went.
What it does to the disk is what its store does with the records of the events on those lines. An
event fails as a whole: its records share their directory and their command, and the characters of
the file are in the command, so either all of them have a UTF-8 form or none has.
-/

namespace BuildRecorder.Session

variable {settings : Settings} {recognition : Recognition}

def intake (disk : Disk) (settings : Settings) (recognition : Recognition)
    (lines : List (Nat × Event.Line)) : Outcome (Disk × Session) Fault Unit :=
  ((create settings recognition).start disk).andThen fun (disk, session) _ =>
    session.handleLines disk lines

theorem intake_of_start {disk : Disk} {settings : Settings} {recognition : Recognition}
    (hstart : ((create settings recognition).start disk).result = .ok ())
    (lines : List (Nat × Event.Line)) :
    let started := ((create settings recognition).start disk).state
    (intake disk settings recognition lines).state =
        (started.2.handleLines started.1 lines).state ∧
      (intake disk settings recognition lines).result =
        (started.2.handleLines started.1 lines).result := by
  rw [intake, Outcome.andThen_of_ok hstart]
  exact ⟨rfl, rfl⟩

/-- Closes a session after its intake, however that went. -/
def close (disk : Disk) (settings : Settings) (recognition : Recognition)
    (lines : List (Nat × Event.Line)) : Outcome (Disk × Session) Fault Unit :=
  (intake disk settings recognition lines).state.2.finish
    (intake disk settings recognition lines).state.1

/-- The records of the events that some lines hold. -/
def recordsOn (settings : Settings) (recognition : Recognition) (lines : List (Nat × Event.Line)) :
    List Record :=
  (Event.events lines).flatMap (recordsFor settings recognition)

/-- Whether the store could not write because of the system. -/
def Fault.isSystem : Fault → Bool
  | .store fault => fault.isSystem
  | .notSearchable _ => false

/-! ## Following the store -/

theorem Follows.isExpected {outcome : Outcome (Disk × Session) Fault Unit}
    {stored : Outcome (Disk × Store) Store.Fault Unit}
    (h : Follows settings recognition outcome stored)
    (hexpected : ∀ fault, stored.result = .error fault → fault.isExpected = true) :
    ∀ fault, outcome.result = .error fault → fault.isExpected = true := by
  intro fault hfault
  rw [h.result_eq] at hfault
  cases hstored : stored.result with
  | ok =>
      rw [hstored] at hfault
      cases hfault
  | error refused =>
      rw [hstored] at hfault
      cases hfault
      exact hexpected refused hstored

/-! ## The records of one event -/

theorem isEncodable_of_mem_recordsOf {strategy : Compiler.Strategy}
    {marker cwd directory line : Text} {invocation : Compiler.Invocation} {record : Record}
    (hclassify : Compiler.classify strategy marker cwd directory line = .ok invocation)
    (h : record ∈ recordsOf directory invocation) :
    record.isEncodable = (directory.isEncodable && invocation.command.isEncodable) := by
  obtain ⟨file, hfile, rfl⟩ := List.mem_map.mp h
  have hsubset := Compiler.source_subset_command hclassify hfile
  cases hcommand : invocation.command.isEncodable with
  | false => simp [Record.isEncodable, hcommand]
  | true =>
      have hfile' : file.isEncodable = true := by
        rw [Text.isEncodable_iff] at hcommand ⊢
        intro c hc
        exact hcommand c (hsubset hc)
      simp [Record.isEncodable, hcommand, hfile']

end BuildRecorder.Session
