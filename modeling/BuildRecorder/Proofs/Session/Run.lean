import BuildRecorder.Proofs.Store.Modes
import BuildRecorder.Session.Basic

/-!
# Runs of a session

What a session does to the disk is what its store does with the records of the events. Counters and
log aside, every call of a session follows the calls of its store, and so does a whole run; a fact
about runs of stores is then a fact about runs of sessions.
-/

namespace BuildRecorder.Session

variable {α β : Type}

/-- Takes events one after the other, up to the first at which the store fails. -/
def handleAll (disk : Disk) (session : Session) :
    List Json.Fields → Outcome (Disk × Session) Fault Unit
  | [] => { state := (disk, session), result := .ok () }
  | event :: events =>
    (session.handle disk event).andThen fun (disk, session) _ => session.handleAll disk events

def run (disk : Disk) (settings : Settings) (recognition : Recognition)
    (events : List Json.Fields) : Outcome (Disk × Session) Fault Unit :=
  (((create settings recognition).start disk).andThen fun (disk, session) _ =>
    session.handleAll disk events).andThen fun (disk, session) _ => session.finish disk

/-- The records of an event that the filter takes; none if it is no invocation. -/
def recordsOfEvent (recognition : Recognition) (event : Event) : List Record :=
  let directory := Path.parent event.projectFile
  match Compiler.classify recognition.strategy recognition.marker recognition.cwd directory
      event.commandLine with
  | .error _ => []
  | .ok invocation => recordsOf directory invocation

/-- The records that an event gives; none if it is passed over. -/
def recordsFor (settings : Settings) (recognition : Recognition) (event : Json.Fields) :
    List Record :=
  match Event.ofFields event with
  | .error _ => []
  | .ok event =>
    if ({ customTask := settings.customTask } : TaskFilter).accepts event.taskName then
      recordsOfEvent recognition event
    else []

/-! ## Following the store -/

/-- An outcome for a session of the given configuration that is an outcome for its store, counters
and log aside. -/
structure Follows (settings : Settings) (recognition : Recognition)
    (outcome : Outcome (Disk × Session) Fault α)
    (stored : Outcome (Disk × Store) Store.Fault Unit) : Prop where
  disk : outcome.state.1 = stored.state.1
  store : outcome.state.2.store = stored.state.2
  settings : outcome.state.2.settings = settings
  recognition : outcome.state.2.recognition = recognition
  result : outcome.result.map (fun _ => ()) = stored.result.mapError .store

variable {settings : Settings} {recognition : Recognition}

theorem Follows.andThen {outcome : Outcome (Disk × Session) Fault α}
    {stored : Outcome (Disk × Store) Store.Fault Unit}
    {next : Disk × Session → α → Outcome (Disk × Session) Fault β}
    {next' : Disk × Store → Unit → Outcome (Disk × Store) Store.Fault Unit}
    (h : Follows settings recognition outcome stored)
    (hnext : ∀ disk session value, session.settings = settings →
      session.recognition = recognition →
      Follows settings recognition (next (disk, session) value) (next' (disk, session.store) ())) :
    Follows settings recognition (outcome.andThen next) (stored.andThen next') := by
  obtain ⟨⟨disk, session⟩, log, result⟩ := outcome
  obtain ⟨⟨disk', store⟩, log', result'⟩ := stored
  obtain ⟨rfl, rfl, hsettings, hrecognition, hresult⟩ := h
  cases result with
  | error fault =>
      cases result' with
      | ok => cases hresult
      | error storeFault => exact ⟨rfl, rfl, hsettings, hrecognition, hresult⟩
  | ok value =>
      cases result' with
      | error storeFault => cases hresult
      | ok =>
          obtain ⟨hdisk, hstore, hsettings, hrecognition, hresult⟩ :=
            hnext disk session value hsettings hrecognition
          exact ⟨hdisk, hstore, hsettings, hrecognition, hresult⟩

theorem Follows.andThen_rest {outcome : Outcome (Disk × Session) Fault α}
    {stored : Outcome (Disk × Store) Store.Fault Unit}
    {next : Disk × Session → α → Outcome (Disk × Session) Fault β}
    (h : Follows settings recognition outcome stored)
    (hnext : ∀ disk session value, session.settings = settings →
      session.recognition = recognition →
      Follows settings recognition (next (disk, session) value)
        { state := (disk, session.store), result := .ok () }) :
    Follows settings recognition (outcome.andThen next) stored := by
  rw [← stored.andThen_pure]
  exact h.andThen hnext

theorem follows_withStore (session : Session) (stored : Outcome (Disk × Store) Store.Fault Unit) :
    Follows session.settings session.recognition (session.withStore stored) stored := by
  obtain ⟨⟨disk, store⟩, log, result⟩ := stored
  cases result <;> exact ⟨rfl, rfl, rfl, rfl, rfl⟩

theorem follows_start (disk : Disk) (session : Session) :
    Follows session.settings session.recognition (session.start disk)
      (session.store.start disk) := by
  obtain ⟨hdisk, hstore, hsettings, hrecognition, hresult⟩ :=
    follows_withStore session (session.store.start disk)
  exact ⟨hdisk, hstore, hsettings, hrecognition, hresult⟩

theorem follows_storeRecords (disk : Disk) (session : Session) (records : List Record) :
    Follows session.settings session.recognition (session.storeRecords disk records)
      (session.store.addAll disk records) := by
  apply (follows_withStore session (session.store.addAll disk records)).andThen_rest
  intro disk later value hsettings hrecognition
  exact ⟨rfl, rfl, hsettings, hrecognition, rfl⟩

theorem follows_record (disk : Disk) (session : Session) (event : Event) :
    Follows session.settings session.recognition (session.record disk event)
      (session.store.addAll disk (recordsOfEvent session.recognition event)) := by
  unfold record recordsOfEvent
  simp only [countMatched]
  cases Compiler.classify session.recognition.strategy session.recognition.marker
      session.recognition.cwd (Path.parent event.projectFile) event.commandLine with
  | error refusal => exact ⟨rfl, rfl, rfl, rfl, rfl⟩
  | ok invocation =>
      obtain ⟨hdisk, hstore, hsettings, hrecognition, hresult⟩ :=
        follows_storeRecords disk session.countMatched
          (recordsOf (Path.parent event.projectFile) invocation)
      exact ⟨hdisk, hstore, hsettings, hrecognition, hresult⟩

theorem follows_handle (disk : Disk) (session : Session) (event : Json.Fields) :
    Follows session.settings session.recognition (session.handle disk event)
      (session.store.addAll disk (recordsFor session.settings session.recognition event)) := by
  unfold handle recordsFor
  cases Event.ofFields event with
  | error fault => exact ⟨rfl, rfl, rfl, rfl, rfl⟩
  | ok event =>
      cases haccepts :
          ({ customTask := session.settings.customTask } : TaskFilter).accepts event.taskName with
      | true =>
          simp only [filter, haccepts, if_true]
          exact follows_record disk
            { session with
              stats := { session.stats with eventsSeen := session.stats.eventsSeen + 1 } } event
      | false =>
          simp only [filter, haccepts, Bool.false_eq_true, if_false]
          exact ⟨rfl, rfl, rfl, rfl, rfl⟩

theorem follows_handleAll (disk : Disk) (session : Session) (events : List Json.Fields) :
    Follows session.settings session.recognition (session.handleAll disk events)
      (session.store.addAll disk
        (events.flatMap (recordsFor session.settings session.recognition))) := by
  induction events generalizing disk session with
  | nil => exact ⟨rfl, rfl, rfl, rfl, rfl⟩
  | cons event events ih =>
      rw [List.flatMap_cons, Store.addAll_append, handleAll]
      apply (follows_handle disk session event).andThen
      intro disk later value hsettings hrecognition
      rw [← hsettings, ← hrecognition]
      exact ih disk later

theorem follows_finish (disk : Disk) (session : Session) :
    Follows session.settings session.recognition (session.finish disk)
      (session.store.finish disk) := by
  apply (follows_withStore session (session.store.finish disk)).andThen_rest
  intro disk later value hsettings hrecognition
  exact ⟨rfl, rfl, hsettings, hrecognition, rfl⟩

/-- A run of a session follows the run of a store over the records of the events. -/
theorem follows_run (disk : Disk) (settings : Settings) (recognition : Recognition)
    (events : List Json.Fields) :
    Follows settings recognition (run disk settings recognition events)
      (Store.run disk (.create settings.mode settings.outputPath)
        (events.flatMap (recordsFor settings recognition))) := by
  apply ((follows_start disk (create settings recognition)).andThen ?_).andThen
  · intro disk session value hsettings hrecognition
    rw [← hsettings, ← hrecognition]
    exact follows_finish disk session
  · rintro disk session value rfl rfl
    exact follows_handleAll disk session events

theorem Follows.result_eq {outcome : Outcome (Disk × Session) Fault Unit}
    {stored : Outcome (Disk × Store) Store.Fault Unit}
    (h : Follows settings recognition outcome stored) :
    outcome.result = stored.result.mapError .store := by
  rw [← h.result]
  cases outcome.result <;> rfl

theorem Follows.result_eq_ok_iff {outcome : Outcome (Disk × Session) Fault Unit}
    {stored : Outcome (Disk × Store) Store.Fault Unit}
    (h : Follows settings recognition outcome stored) :
    outcome.result = .ok () ↔ stored.result = .ok () := by
  rw [h.result_eq]
  cases stored.result <;> simp [Except.mapError]

theorem Follows.exists_ok {outcome : Outcome (Disk × Session) Fault α}
    {stored : Outcome (Disk × Store) Store.Fault Unit}
    (h : Follows settings recognition outcome stored) (hstored : stored.result = .ok ()) :
    ∃ value, outcome.result = .ok value := by
  have hresult := h.result
  rw [hstored] at hresult
  cases houtcome : outcome.result with
  | error fault =>
      rw [houtcome] at hresult
      cases hresult
  | ok value => exact ⟨value, rfl⟩

theorem Follows.result_eq_error {outcome : Outcome (Disk × Session) Fault α}
    {stored : Outcome (Disk × Store) Store.Fault Unit} {fault : Store.Fault}
    (h : Follows settings recognition outcome stored) (hstored : stored.result = .error fault) :
    outcome.result = .error (.store fault) := by
  have hresult := h.result
  rw [hstored] at hresult
  cases houtcome : outcome.result with
  | ok value =>
      rw [houtcome] at hresult
      cases hresult
  | error other =>
      rw [houtcome] at hresult
      cases hresult
      rfl

/-! ## Incremental builds -/

/-- Recording some events and then, in a new session, some more ends with the same files as
recording all of them in one session, whatever the output path held before. A file that is yet to be
created must not be one that the second session could not write to. -/
theorem run_append {disk : Disk} {first second : List Json.Fields}
    (hmode : settings.mode = .merge)
    (hwritable : disk.exists settings.outputPath = false →
      disk.isWritable settings.outputPath = true)
    (hfirst : (run disk settings recognition first).result = .ok ())
    (hboth : (run disk settings recognition (first ++ second)).result = .ok ()) :
    (run (run disk settings recognition first).state.1 settings recognition second).result =
        .ok () ∧
      (run (run disk settings recognition first).state.1 settings recognition second).state.1 =
        (run disk settings recognition (first ++ second)).state.1 := by
  have hstored := follows_run disk settings recognition first
  have hall := follows_run disk settings recognition (first ++ second)
  rw [hmode] at hstored hall
  rw [List.flatMap_append] at hall
  obtain ⟨hdone, hsame⟩ := Store.run_merge_append hwritable
    (hstored.result_eq_ok_iff.mp hfirst) (hall.result_eq_ok_iff.mp hboth)
  have hlater := follows_run (run disk settings recognition first).state.1 settings recognition
    second
  rw [hmode, hstored.disk] at hlater
  rw [hstored.disk]
  refine ⟨hlater.result_eq_ok_iff.mpr hdone, ?_⟩
  rw [hlater.disk, hsame, hall.disk]

def compileEvent (arguments : Text) : Json.Fields :=
  [("taskName", .text "CL"), ("projectFile", .text "C:\\p\\p.vcxproj"),
    ("commandLine", .text ("C:\\bin\\cl.exe " ++ arguments))]

def merging : Settings := { outputPath := "/db", mode := .merge }

theorem run_append_compileEvents :
    (run (run Store.repeatedDisk merging {} [compileEvent "/c a.cpp b.cpp"]).state.1 merging {}
          [compileEvent "/c a.cpp"]).result = .ok () ∧
      (run (run Store.repeatedDisk merging {} [compileEvent "/c a.cpp b.cpp"]).state.1 merging {}
          [compileEvent "/c a.cpp"]).state.1 =
        (run Store.repeatedDisk merging {}
          ([compileEvent "/c a.cpp b.cpp"] ++ [compileEvent "/c a.cpp"])).state.1 :=
  run_append rfl (fun h => absurd h (by decide)) (eq_ok_of_toOption (by decide +kernel))
    (eq_ok_of_toOption (by decide +kernel))

/-! ## Both disciplines -/

/-- Streaming the records of some events and then, in a new session, merging nothing into the file
leaves the same bytes as merging them at a path where there was nothing. -/
theorem run_collapse_eq_run_merge {disk fresh : Disk} {path freshPath : Text}
    {events : List Json.Fields}
    (hencodable : ∀ record ∈ events.flatMap (recordsFor settings recognition),
      record.isEncodable = true)
    (hcheck : Store.checkOutput disk path = .ok ()) (htakes : disk.TakesFile path)
    (hwritable : disk.exists path = false → disk.isWritable path = true)
    (hcheck' : Store.checkOutput fresh freshPath = .ok ()) (htakes' : fresh.TakesFile freshPath)
    (hmissing : fresh.exists freshPath = false) :
    let streamed := run disk { settings with outputPath := path, mode := .stream } recognition
      events
    let collapsed := run streamed.state.1 { settings with outputPath := path, mode := .merge }
      recognition []
    let merged := run fresh { settings with outputPath := freshPath, mode := .merge } recognition
      events
    streamed.result = .ok () ∧ collapsed.result = .ok () ∧ merged.result = .ok () ∧
      ∃ bytes, collapsed.state.1.read path = .ok bytes ∧
        merged.state.1.read freshPath = .ok bytes := by
  intro streamed collapsed merged
  have hall : (events.flatMap (recordsFor settings recognition)).all Record.isEncodable = true :=
    List.all_eq_true.mpr hencodable
  have hstreamed := follows_run disk { settings with outputPath := path, mode := .stream }
    recognition events
  have hcollapsed := follows_run streamed.state.1
    { settings with outputPath := path, mode := .merge } recognition []
  have hmerged := follows_run fresh { settings with outputPath := freshPath, mode := .merge }
    recognition events
  obtain ⟨hdone, -⟩ := Store.run_stream_of_isEncodable hcheck htakes hall
  obtain ⟨hdone', bytes, hencode, hread⟩ :=
    Store.run_merge_nil_of_stream hcheck htakes hwritable hall
  obtain ⟨hdone'', bytes', hencode', hread'⟩ :=
    Store.run_merge_of_not_exists hcheck' htakes' hmissing hall
  -- Both files are the document of one database.
  obtain rfl : bytes = bytes' := Except.ok.inj (hencode.symm.trans hencode')
  refine ⟨hstreamed.result_eq_ok_iff.mpr hdone, hcollapsed.result_eq_ok_iff.mpr ?_,
    hmerged.result_eq_ok_iff.mpr hdone'', bytes, ?_, ?_⟩
  · rw [hstreamed.disk]
    exact hdone'
  · rw [hcollapsed.disk, hstreamed.disk]
    exact hread
  · rw [hmerged.disk]
    exact hread'

def compileEvents : List Json.Fields :=
  [compileEvent "/c a.cpp b.cpp", compileEvent "/c a.cpp"]

theorem run_collapse_eq_run_merge_compileEvents :
    let streamed := run Store.repeatedDisk { outputPath := "/db", mode := .stream } {}
      compileEvents
    let collapsed := run streamed.state.1 { outputPath := "/db", mode := .merge } {} []
    let merged := run {} { outputPath := "/new", mode := .merge } {} compileEvents
    streamed.result = .ok () ∧ collapsed.result = .ok () ∧ merged.result = .ok () ∧
      ∃ bytes, collapsed.state.1.read "/db" = .ok bytes ∧
        merged.state.1.read "/new" = .ok bytes := by
  have hopened : Disk.openToWrite {} "/new" = .ok (Disk.setContent {} "/new" [], .file 0 0) :=
    eq_ok_of_toOption (by decide +kernel)
  have htakes : Disk.TakesFile {} "/new" := (Disk.openToWrite_eq_ok_iff.mp hopened).1
  have hencodable : ∀ record ∈ compileEvents.flatMap (recordsFor {} {}),
      record.isEncodable = true := by decide +kernel
  exact run_collapse_eq_run_merge hencodable (eq_ok_of_toOption (by decide +kernel))
    Store.takesFile_repeatedDisk (fun h => absurd h (by decide))
    (eq_ok_of_toOption (by decide +kernel)) htakes (by decide)

end BuildRecorder.Session
