import BuildRecorder.Proofs.Session.Run
import BuildRecorder.Proofs.Store.Open

/-!
# Events that are passed over

An event is passed over if it is malformed, if its task is not wanted, or if no compiler can be made
out in its command line. Such an event reaches neither the store nor the disk, so a session that is
not shown some of them leaves the same files behind. While the store is open no event makes a call
fail, except that a streaming store may not be able to write a record.
-/

namespace BuildRecorder.Session

variable {settings : Settings} {recognition : Recognition}

inductive PassedOver (settings : Settings) (recognition : Recognition) (event : Json.Fields) : Prop
  | malformed (fault : Event.Malformed) (hread : Event.ofFields event = .error fault)
  | unwanted (read : Event) (hread : Event.ofFields event = .ok read)
      (haccepts : ({ customTask := settings.customTask } : TaskFilter).accepts read.taskName = false)
  | refused (read : Event) (hread : Event.ofFields event = .ok read)
      (haccepts : ({ customTask := settings.customTask } : TaskFilter).accepts read.taskName = true)
      (refusal : Compiler.Refusal)
      (hclassify : Compiler.classify recognition.strategy recognition.marker recognition.cwd
        (Path.parent read.projectFile) read.commandLine = .error refusal)

theorem PassedOver.recordsFor_eq_nil {event : Json.Fields}
    (h : PassedOver settings recognition event) : recordsFor settings recognition event = [] := by
  unfold recordsFor
  cases h with
  | malformed fault hread => simp only [hread]
  | unwanted read hread haccepts => simp only [hread, haccepts, Bool.false_eq_true, if_false]
  | refused read hread haccepts refusal hclassify =>
      simp only [hread, haccepts, if_true, recordsOfEvent, hclassify]

theorem handle_of_passedOver {session : Session} {event : Json.Fields}
    (h : PassedOver session.settings session.recognition event) (disk : Disk) :
    (session.handle disk event).state.1 = disk ∧
      (session.handle disk event).state.2.store = session.store ∧
      (session.handle disk event).result = .ok 0 := by
  unfold handle
  cases h with
  | malformed fault hread =>
      simp only [hread]
      exact ⟨trivial, trivial, trivial⟩
  | unwanted read hread haccepts =>
      simp only [hread, filter, haccepts, Bool.false_eq_true, if_false]
      exact ⟨trivial, trivial, trivial⟩
  | refused read hread haccepts refusal hclassify =>
      simp only [hread, filter, haccepts, if_true, record, countMatched, hclassify, skip]
      exact ⟨trivial, trivial, trivial⟩

/-! ## Events that are left out -/

/-- A list, and what is left of it when some of its items that may be dropped are. -/
inductive Thinned {α : Type} (mayDrop : α → Prop) : List α → List α → Prop
  | nil : Thinned mayDrop [] []
  | keep (a : α) {as rest : List α} (h : Thinned mayDrop as rest) :
      Thinned mayDrop (a :: as) (a :: rest)
  | drop (a : α) {as rest : List α} (ha : mayDrop a) (h : Thinned mayDrop as rest) :
      Thinned mayDrop (a :: as) rest

theorem Thinned.flatMap_eq {α β : Type} {mayDrop : α → Prop} {as rest : List α} {f : α → List β}
    (h : Thinned mayDrop as rest) (hf : ∀ a, mayDrop a → f a = []) :
    rest.flatMap f = as.flatMap f := by
  induction h with
  | nil => rfl
  | keep a h ih => simp only [List.flatMap_cons, ih]
  | drop a ha h ih => rw [List.flatMap_cons, hf a ha, List.nil_append, ih]

/-- Takes events one after the other, and goes on after those at which the store fails. -/
def handleEach (disk : Disk) (session : Session) : List Json.Fields → Disk × Session
  | [] => (disk, session)
  | event :: events =>
    let (disk, session) := (session.handle disk event).state
    session.handleEach disk events

theorem handleEach_cons (disk : Disk) (session : Session) (event : Json.Fields)
    (events : List Json.Fields) :
    session.handleEach disk (event :: events) =
      (session.handle disk event).state.2.handleEach (session.handle disk event).state.1 events :=
  rfl

/-- Sessions that differ in their counters only. -/
structure Alike (session other : Session) : Prop where
  store : other.store = session.store
  settings : other.settings = session.settings
  recognition : other.recognition = session.recognition

theorem Alike.finish {session other : Session} (h : Alike session other) (disk : Disk) :
    (other.finish disk).state.1 = (session.finish disk).state.1 := by
  rw [(follows_finish disk other).disk, (follows_finish disk session).disk, h.store]

theorem Alike.handle {session other : Session} (h : Alike session other) (disk : Disk)
    (event : Json.Fields) :
    (other.handle disk event).state.1 = (session.handle disk event).state.1 ∧
      Alike (session.handle disk event).state.2 (other.handle disk event).state.2 := by
  have hsession := follows_handle disk session event
  have hother := follows_handle disk other event
  rw [h.store, h.settings, h.recognition] at hother
  exact ⟨hother.disk.trans hsession.disk.symm, hother.store.trans hsession.store.symm,
    hother.settings.trans hsession.settings.symm,
    hother.recognition.trans hsession.recognition.symm⟩

theorem Alike.handleEach {events rest : List Json.Fields}
    (hthinned : Thinned (PassedOver settings recognition) events rest) {session other : Session}
    (hsettings : session.settings = settings) (hrecognition : session.recognition = recognition)
    (h : Alike session other) (disk : Disk) :
    (other.handleEach disk rest).1 = (session.handleEach disk events).1 ∧
      Alike (session.handleEach disk events).2 (other.handleEach disk rest).2 := by
  induction hthinned generalizing disk session other with
  | nil => exact ⟨rfl, h⟩
  | keep event hthinned ih =>
      have hfollows := follows_handle disk session event
      obtain ⟨hdisk, hnext⟩ := h.handle disk event
      rw [handleEach_cons, handleEach_cons, hdisk]
      exact ih (hfollows.settings.trans hsettings) (hfollows.recognition.trans hrecognition) hnext _
  | drop event hevent hthinned ih =>
      rw [← hsettings, ← hrecognition] at hevent
      have hfollows := follows_handle disk session event
      obtain ⟨hdisk, hstore, -⟩ := handle_of_passedOver hevent disk
      have hnext : Alike (session.handle disk event).state.2 other :=
        ⟨h.store.trans hstore.symm, h.settings.trans hfollows.settings.symm,
          h.recognition.trans hfollows.recognition.symm⟩
      have hrest := ih (hfollows.settings.trans hsettings)
        (hfollows.recognition.trans hrecognition) hnext disk
      rw [handleEach_cons, hdisk]
      exact hrest

theorem handleAll_of_thinned {session : Session} {events rest : List Json.Fields}
    (h : Thinned (PassedOver session.settings session.recognition) events rest) (disk : Disk) :
    (session.handleAll disk rest).result = (session.handleAll disk events).result ∧
      (session.handleAll disk rest).state.1 = (session.handleAll disk events).state.1 ∧
      Alike (session.handleAll disk events).state.2 (session.handleAll disk rest).state.2 := by
  have hall := follows_handleAll disk session events
  have hrest := follows_handleAll disk session rest
  rw [h.flatMap_eq fun event hevent => hevent.recordsFor_eq_nil] at hrest
  exact ⟨hrest.result_eq.trans hall.result_eq.symm, hrest.disk.trans hall.disk.symm,
    hrest.store.trans hall.store.symm, hrest.settings.trans hall.settings.symm,
    hrest.recognition.trans hall.recognition.symm⟩

/-! ## Sessions that are not disturbed -/

/-- While the store of a session is open, no event ends it: a merging session takes every event, and
a streaming one fails only in writing a record. An event that is passed over leaves the disk and the
store as they are and counts for no record. Leaving any of them out of a sequence of events changes
nothing in the files, be it that the session is closed behind the first event at which it fails or
that it goes on. -/
theorem handle_undisturbed {disk : Disk} {session : Session} (hopen : session.store.isOpen = true)
    {events rest : List Json.Fields}
    (hthinned : Thinned (PassedOver session.settings session.recognition) events rest) :
    (∀ event,
      let outcome := session.handle disk event
      ((∃ store, session.store = .merge store) → ∃ count, outcome.result = .ok count) ∧
        (∀ store, session.store = .stream store →
          (∃ count, outcome.result = .ok count) ∨
            ∃ cause, outcome.result = .error (.store (.write store.path cause))) ∧
        (PassedOver session.settings session.recognition event →
          outcome.state.1 = disk ∧ outcome.state.2.store = session.store ∧
            outcome.result = .ok 0)) ∧
      (let all := session.handleAll disk events
        let less := session.handleAll disk rest
        less.result = all.result ∧ less.state.1 = all.state.1 ∧
          (less.state.2.finish less.state.1).state.1 =
            (all.state.2.finish all.state.1).state.1) ∧
      (let all := session.handleEach disk events
        let less := session.handleEach disk rest
        less.1 = all.1 ∧ (less.2.finish less.1).state.1 = (all.2.finish all.1).state.1) := by
  refine ⟨?_, ?_, ?_⟩
  · intro event outcome
    have hfollows := follows_handle disk session event
    refine ⟨?_, ?_, fun hevent => handle_of_passedOver hevent disk⟩
    · rintro ⟨store, hstore⟩
      rcases Store.addAll_of_isOpen hopen disk _ with hdone | ⟨other, hother, -⟩
      · exact hfollows.exists_ok hdone
      · rw [hstore] at hother
        cases hother
    · intro store hstore
      rcases Store.addAll_of_isOpen hopen disk _ with hdone | ⟨other, hother, cause, hrefused⟩
      · exact .inl (hfollows.exists_ok hdone)
      · rw [hstore] at hother
        cases hother
        exact .inr ⟨cause, hfollows.result_eq_error hrefused⟩
  · intro all less
    obtain ⟨hresult, hdisk, halike⟩ := handleAll_of_thinned hthinned disk
    refine ⟨hresult, hdisk, ?_⟩
    rw [hdisk]
    exact halike.finish _
  · intro all less
    obtain ⟨hdisk, halike⟩ := Alike.handleEach hthinned rfl rfl ⟨rfl, rfl, rfl⟩ disk
    refine ⟨hdisk, ?_⟩
    rw [hdisk]
    exact halike.finish _

def streaming : Settings := { outputPath := "/db", mode := .stream }

def taskEvent (name line : Text) : Json.Fields :=
  [("taskName", .text name), ("projectFile", .text "/p/a.vcxproj"), ("commandLine", .text line)]

/-- Events of which only the third is recorded. -/
def strayEvents : List Json.Fields :=
  [[("taskName", .null)], taskEvent "Link" "link.exe a.obj", compileEvent "/c a.cpp",
    taskEvent "CL" "gcc -c a.c"]

theorem passedOver_foreignCompiler :
    PassedOver streaming {} (taskEvent "CL" "gcc -c a.c") :=
  .refused ⟨"CL", "/p/a.vcxproj", "gcc -c a.c"⟩ (by decide +kernel) (by decide +kernel)
    (.markerMissing Compiler.defaultMarker "gcc -c a.c") (by decide +kernel)

theorem thinned_strayEvents :
    Thinned (PassedOver streaming {}) strayEvents [compileEvent "/c a.cpp"] := by
  refine .drop _ ?_ (.drop _ ?_ (.keep _ (.drop _ passedOver_foreignCompiler .nil)))
  · exact .malformed ⟨"taskName"⟩ (by decide +kernel)
  · exact .unwanted ⟨"Link", "/p/a.vcxproj", "link.exe a.obj"⟩ (by decide +kernel)
      (by decide +kernel)

theorem handle_undisturbed_strayEvents :
    let opened := ((create streaming {}).start {}).state
    opened.2.store.isOpen = true ∧
      (opened.2.handle opened.1 (taskEvent "CL" "gcc -c a.c")).result = .ok 0 ∧
      (let all := opened.2.handleEach opened.1 strayEvents
        let less := opened.2.handleEach opened.1 [compileEvent "/c a.cpp"]
        less.1 = all.1 ∧ (less.2.finish less.1).state.1 = (all.2.finish all.1).state.1) := by
  intro opened
  have hopen : opened.2.store.isOpen = true := by decide +kernel
  have hfollows := follows_start {} (create streaming {})
  have hsettings : opened.2.settings = streaming := hfollows.settings
  have hrecognition : opened.2.recognition = {} := hfollows.recognition
  have hthinned : Thinned (PassedOver opened.2.settings opened.2.recognition) strayEvents
      [compileEvent "/c a.cpp"] := by
    rw [hsettings, hrecognition]
    exact thinned_strayEvents
  have hrefused : PassedOver opened.2.settings opened.2.recognition
      (taskEvent "CL" "gcc -c a.c") := by
    rw [hsettings, hrecognition]
    exact passedOver_foreignCompiler
  obtain ⟨hevents, -, heach⟩ := handle_undisturbed hopen hthinned
  obtain ⟨-, -, hpassed⟩ := hevents (taskEvent "CL" "gcc -c a.c")
  exact ⟨hopen, (hpassed hrefused).2.2, heach⟩

end BuildRecorder.Session
