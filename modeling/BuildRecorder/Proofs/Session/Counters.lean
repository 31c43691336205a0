import BuildRecorder.Proofs.Session.Lines
import BuildRecorder.Proofs.Store.Open

/-!
# The counters of a session

A session counts the records of an invocation when all of them have been stored, its store counts
every record as it takes it. The two agree after any calls, also after calls that failed, because
the records of one invocation are taken all or none: they share their directory and their command,
and the characters of the file are in the command, so a record that cannot be written is the first
one. That the system lets an output be written to always or never is part of what a disk is here: a
file takes every write and a device none.
-/

namespace BuildRecorder.Session

variable {settings : Settings} {recognition : Recognition}

/-! ## One invocation -/

theorem state_withStore {α : Type} (session : Session)
    (stored : Outcome (Disk × Store) Store.Fault α) :
    (session.withStore stored).state =
      (stored.state.1, { session with store := stored.state.2 }) := rfl

/-- Stored records are counted, refused ones are not. -/
theorem storeRecords_cases (disk : Disk) (session : Session) (records : List Record) :
    ((session.store.addAll disk records).result = .ok () ∧
        (session.storeRecords disk records).result = .ok records.length ∧
        (session.storeRecords disk records).state.2.stats =
          { session.stats with written := session.stats.written + records.length }) ∨
      ∃ fault, (session.store.addAll disk records).result = .error fault ∧
        (session.storeRecords disk records).result = .error (.store fault) ∧
        (session.storeRecords disk records).state.2.stats = session.stats := by
  unfold storeRecords
  cases hstored : (session.store.addAll disk records).result with
  | ok =>
      have hdone : (session.withStore (session.store.addAll disk records)).result = .ok () := by
        simp only [withStore, Outcome.mapFault, Outcome.within, hstored, Except.mapError]
      rw [Outcome.andThen_of_ok hdone, state_withStore]
      exact .inl ⟨rfl, rfl, rfl⟩
  | error fault =>
      have hrefused : (session.withStore (session.store.addAll disk records)).result =
          .error (.store fault) := by
        simp only [withStore, Outcome.mapFault, Outcome.within, hstored, Except.mapError]
      rw [Outcome.andThen_of_error hrefused, state_withStore]
      exact .inr ⟨fault, rfl, rfl, rfl⟩

/-- Of the records of an invocation, all are stored or the first is refused. -/
theorem addAll_recordsOfEvent (disk : Disk) (store : Store) (recognition : Recognition)
    (event : Event) :
    let records := recordsOfEvent recognition event
    ((store.addAll disk records).result = .ok () ∧
        (store.addAll disk records).state.2.added = store.added + records.length) ∨
      ∃ first rest fault, records = first :: rest ∧
        (store.add disk first).result = .error fault ∧
        (store.addAll disk records).result = .error fault ∧
        (store.addAll disk records).state.1 = disk ∧
        (store.addAll disk records).state.2.added = store.added := by
  intro records
  have halike : ∃ encodable, ∀ record ∈ records, record.isEncodable = encodable := by
    simp only [records, recordsOfEvent]
    split
    · exact ⟨true, by simp⟩
    · next hclassify => exact ⟨_, fun record h => isEncodable_of_mem_recordsOf hclassify h⟩
  obtain ⟨encodable, halike⟩ := halike
  exact Store.addAll_all_or_none disk store halike

/-- An invocation is counted, and with it either its records or that it was skipped, unless the
store refuses a record. -/
theorem stats_record (disk : Disk) (session : Session) (event : Event) :
    let records := recordsOfEvent session.recognition event
    let outcome := session.record disk event
    ((session.store.addAll disk records).result = .ok () ∧ outcome.result = .ok records.length ∧
        ∃ skipped ≤ 1, outcome.state.2.stats =
          { session.stats with
            matched := session.stats.matched + 1
            skipped := session.stats.skipped + skipped
            written := session.stats.written + records.length }) ∨
      ∃ fault, (session.store.addAll disk records).result = .error fault ∧
        outcome.result = .error (.store fault) ∧
        outcome.state.2.stats =
          { session.stats with matched := session.stats.matched + 1 } := by
  unfold record recordsOfEvent
  simp only [countMatched]
  cases Compiler.classify session.recognition.strategy session.recognition.marker
      session.recognition.cwd (Path.parent event.projectFile) event.commandLine with
  | error refusal => exact .inl ⟨rfl, rfl, 1, le_refl 1, rfl⟩
  | ok invocation =>
      rcases storeRecords_cases disk session.countMatched
          (recordsOf (Path.parent event.projectFile) invocation) with
        ⟨hstored, hresult, hstats⟩ | ⟨fault, hstored, hresult, hstats⟩
      · exact .inl ⟨hstored, hresult, 0, Nat.zero_le 1, hstats⟩
      · exact .inr ⟨fault, hstored, hresult, hstats⟩

/-- The counters of a session move with the count of its store. -/
structure Tallied (session : Session) : Prop where
  written : session.stats.written = session.store.added
  skipped : session.stats.skipped ≤ session.stats.matched

theorem Tallied.record {session : Session} (h : Tallied session) (disk : Disk) (event : Event) :
    Tallied (session.record disk event).state.2 := by
  have hstore := (follows_record disk session event).store
  rcases stats_record disk session event with
      ⟨hstored, -, skipped, hskipped, hstats⟩ | ⟨fault, hstored, -, hstats⟩
  · rcases addAll_recordsOfEvent disk session.store session.recognition event with
        ⟨-, hadded⟩ | ⟨_, _, _, -, -, hrefused, -⟩
    · refine ⟨?_, ?_⟩
      · rw [hstats, hstore, hadded, h.written]
      · rw [hstats]
        exact Nat.add_le_add h.skipped hskipped
    · rw [hstored] at hrefused
      cases hrefused
  · rcases addAll_recordsOfEvent disk session.store session.recognition event with
        ⟨hdone, -⟩ | ⟨_, _, _, -, -, -, -, hadded⟩
    · rw [hstored] at hdone
      cases hdone
    · refine ⟨?_, ?_⟩
      · rw [hstats, hstore, hadded]
        exact h.written
      · rw [hstats]
        exact Nat.le_succ_of_le h.skipped

theorem seen_record (disk : Disk) (session : Session) (event : Event) :
    (session.record disk event).state.2.stats.matched = session.stats.matched + 1 ∧
      (session.record disk event).state.2.stats.eventsSeen = session.stats.eventsSeen := by
  rcases stats_record disk session event with
      ⟨-, -, skipped, -, hstats⟩ | ⟨fault, -, -, hstats⟩ <;> simp [hstats]

/-! ## All calls -/

def countSeen (session : Session) : Session :=
  { session with stats := { session.stats with eventsSeen := session.stats.eventsSeen + 1 } }

/-- An event is seen, and then it is recorded or that is all. -/
theorem handle_cases (disk : Disk) (session : Session) (event : Json.Fields) :
    (session.handle disk event).state = (disk, session.countSeen) ∨
      ∃ read, session.handle disk event = session.countSeen.record disk read := by
  unfold handle
  cases Event.ofFields event with
  | error fault => exact .inl rfl
  | ok read =>
      cases haccepts : session.filter.accepts read.taskName with
      | true => exact .inr ⟨read, if_pos haccepts⟩
      | false => exact .inl (by simp only [filter] at haccepts; simp [filter, haccepts, countSeen])

inductive Call where
  | start
  | handle (event : Json.Fields)
  | record (event : Event)
  | finish

def call (disk : Disk) (session : Session) : Call → Disk × Session
  | .start => (session.start disk).state
  | .handle event => (session.handle disk event).state
  | .record event => (session.record disk event).state
  | .finish => (session.finish disk).state

/-- Makes calls one after the other, and goes on after those that fail. -/
def callEach (disk : Disk) (session : Session) : List Call → Disk × Session
  | [] => (disk, session)
  | call :: calls =>
    let (disk, session) := session.call disk call
    session.callEach disk calls

theorem state_start (disk : Disk) (session : Session) :
    (session.start disk).state =
      ((session.store.start disk).state.1,
        { session with store := (session.store.start disk).state.2 }) := rfl

theorem state_finish (disk : Disk) (session : Session) :
    (session.finish disk).state =
      ((session.store.finish disk).state.1,
        { session with store := (session.store.finish disk).state.2 }) := by
  unfold finish Outcome.andThen
  split <;> rfl

theorem Tallied.call {session : Session} (h : Tallied session) (disk : Disk) (call : Call) :
    Tallied (session.call disk call).2 := by
  cases call with
  | start =>
      rw [Session.call, state_start]
      exact ⟨h.written.trans (Store.added_start disk session.store).symm, h.skipped⟩
  | handle event =>
      rw [Session.call]
      have hseen : Tallied session.countSeen := ⟨h.written, h.skipped⟩
      rcases handle_cases disk session event with hstate | ⟨read, hread⟩
      · rw [hstate]
        exact hseen
      · rw [hread]
        exact hseen.record disk read
  | record event => exact h.record disk event
  | finish =>
      rw [Session.call, state_finish]
      exact ⟨h.written.trans (Store.added_finish disk session.store).symm, h.skipped⟩

theorem Tallied.callEach {session : Session} (h : Tallied session) (disk : Disk)
    (calls : List Call) : Tallied (session.callEach disk calls).2 := by
  induction calls generalizing disk session with
  | nil => exact h
  | cons call calls ih => exact ih (h.call disk call) _

/-- Without invocations that were not events, no more invocations are counted than events. -/
theorem matched_le_call {session : Session}
    (h : session.stats.matched ≤ session.stats.eventsSeen) (disk : Disk) {call : Call}
    (hcall : ∀ event, call ≠ .record event) :
    (session.call disk call).2.stats.matched ≤ (session.call disk call).2.stats.eventsSeen := by
  cases call with
  | start =>
      rw [Session.call, state_start]
      exact h
  | handle event =>
      rw [Session.call]
      rcases handle_cases disk session event with hstate | ⟨read, hread⟩
      · rw [hstate]
        exact Nat.le_succ_of_le h
      · obtain ⟨hmatched, hseen⟩ := seen_record disk session.countSeen read
        rw [hread, hmatched, hseen]
        exact Nat.succ_le_succ h
  | record event => exact absurd rfl (hcall event)
  | finish =>
      rw [Session.call, state_finish]
      exact h

theorem matched_le_callEach {session : Session}
    (h : session.stats.matched ≤ session.stats.eventsSeen) (disk : Disk) {calls : List Call}
    (hcalls : ∀ event, .record event ∉ calls) :
    (session.callEach disk calls).2.stats.matched ≤
      (session.callEach disk calls).2.stats.eventsSeen := by
  induction calls generalizing disk session with
  | nil => exact h
  | cons call calls ih =>
      have hfirst : ∀ event, call ≠ .record event := by
        rintro event rfl
        exact hcalls event List.mem_cons_self
      exact ih (matched_le_call h disk hfirst) _
        fun event hmem => hcalls event (List.mem_cons_of_mem _ hmem)

theorem recognition_callEach (disk : Disk) (session : Session) (calls : List Call) :
    (session.callEach disk calls).2.recognition = session.recognition := by
  induction calls generalizing disk session with
  | nil => rfl
  | cons call calls ih =>
      refine (ih _ _).trans ?_
      cases call with
      | start => exact (follows_start disk session).recognition
      | handle event => exact (follows_handle disk session event).recognition
      | record event => exact (follows_record disk session event).recognition
      | finish => exact (follows_finish disk session).recognition

/-- Whatever was called before, in any order and any number of times, and whether or not it failed: a
session has counted as many records as its store, it has skipped no more invocations than it has
met, and it has met no more than it has seen events if it was given nothing else. And an invocation
that is recorded next is stored with all its records, or it fails at the first, which is then not
stored either. -/
theorem callEach_tallied (settings : Settings) (recognition : Recognition) (disk : Disk)
    (calls : List Call) :
    let now := (create settings recognition).callEach disk calls
    now.2.stats.written = now.2.store.added ∧
      now.2.stats.skipped ≤ now.2.stats.matched ∧
      ((∀ event, .record event ∉ calls) → now.2.stats.matched ≤ now.2.stats.eventsSeen) ∧
      ∀ event,
        let records := recordsOfEvent recognition event
        let outcome := now.2.record now.1 event
        (outcome.result = .ok records.length ∧
            outcome.state.2.store.added = now.2.store.added + records.length) ∨
          ∃ first rest fault, records = first :: rest ∧
            (now.2.store.add now.1 first).result = .error fault ∧
            outcome.result = .error (.store fault) ∧ outcome.state.1 = now.1 ∧
            outcome.state.2.store.added = now.2.store.added := by
  intro now
  have hfresh : Tallied (create settings recognition) := by
    refine ⟨?_, le_refl _⟩
    cases hmode : settings.mode <;> simp [create, Store.create, Store.added, hmode]
  have htallied : Tallied now.2 := hfresh.callEach disk calls
  refine ⟨htallied.written, htallied.skipped, matched_le_callEach (le_refl _) disk, ?_⟩
  intro event records outcome
  have hrecognition : now.2.recognition = recognition :=
    recognition_callEach disk (create settings recognition) calls
  have hfollows := follows_record now.1 now.2 event
  have hdisk : outcome.state.1 = _ := hfollows.disk
  have hstore : outcome.state.2.store = _ := hfollows.store
  rw [hrecognition] at hdisk hstore
  have hstats := stats_record now.1 now.2 event
  rw [hrecognition] at hstats
  rw [hdisk, hstore]
  rcases addAll_recordsOfEvent now.1 now.2.store recognition event with
      ⟨hdone, hadded⟩ | ⟨first, rest, fault, hrecords, hfirst, hrefused, hkept, hadded⟩
  · rcases hstats with ⟨-, hresult, -⟩ | ⟨fault, hrefused, -⟩
    · exact .inl ⟨hresult, hadded⟩
    · rw [hdone] at hrefused
      cases hrefused
  · rcases hstats with ⟨hdone, -⟩ | ⟨other, hother, hresult, -⟩
    · rw [hdone] at hrefused
      cases hrefused
    · rw [hrefused] at hother
      cases hother
      exact .inr ⟨first, rest, fault, hrecords, hfirst, hresult, hkept, hadded⟩

end BuildRecorder.Session
