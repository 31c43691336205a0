import BuildRecorder.Program.Run
import BuildRecorder.Proofs.Session.Run
import BuildRecorder.Proofs.Store.Calls

/-!
# Runs that do not get started

Settings that are refused, events that cannot be read and an output that cannot be opened end a run
before it has touched a file. Nothing that goes wrong later ends it with the exit code of the first
two.
-/

namespace BuildRecorder

/-- A store that does not start leaves the disk as it is, and stays as it was. -/
theorem Store.state_start_of_error {disk : Disk} {store : Store} {fault : Store.Fault}
    (h : (store.start disk).result = .error fault) : (store.start disk).state = (disk, store) := by
  cases store with
  | plain path => rfl
  | merge store =>
      have hstart : (store.start disk).result = .error fault := h
      simp only [Store.start, Outcome.within, MergeStore.state_start_of_error hstart]
  | stream store =>
      have hstart : (store.start disk).result = .error fault := h
      simp only [Store.start, Outcome.within, StreamStore.state_start_of_error hstart]

theorem Session.disk_start_of_error {disk : Disk} {session : Session} {fault : Session.Fault}
    (h : (session.start disk).result = .error fault) : (session.start disk).state.1 = disk := by
  have hfollows := Session.follows_start disk session
  rw [hfollows.disk]
  cases hstored : (session.store.start disk).result with
  | error refused => rw [Store.state_start_of_error hstored]
  | ok =>
      rw [hfollows.result_eq_ok_iff.mpr hstored] at h
      cases h

namespace Program

/-- What ends a run before it records: its settings, its events or its output are refused. -/
inductive StartupFault where
  | settings (fault : Settings.Fault)
  | events (fault : SystemFault)
  | output (fault : Store.OutputFault)

def StartupFault.exit : StartupFault → Exit
  | .settings _ | .events _ => .badArguments
  | .output _ => .failure

def Surroundings.IsVerified (around : Surroundings) : Prop :=
  ∃ met, (Requirements.verify around.installed).1 = .ok met

namespace Request

variable {around : Surroundings} {disk : Disk} {request : Request} {settings : Settings}
  {source : Source}

/-- The session that a run starts. -/
def session (request : Request) (around : Surroundings) (settings : Settings) : Session :=
  .create settings (request.recognition around.cwd)

/-- A run gets as far as a fault: what comes before it in the order of the run is in order. -/
inductive StopsAt (request : Request) (around : Surroundings) (disk : Disk) :
    StartupFault → Prop where
  | settings {fault : Settings.Fault} (verified : around.IsVerified)
      (refused : Settings.build request.parameters request.overrides = .error fault) :
      StopsAt request around disk (.settings fault)
  | events {settings : Settings} {fault : SystemFault} (verified : around.IsVerified)
      (built : Settings.build request.parameters request.overrides = .ok settings)
      (refused : Source.open disk request.events = .error (.system fault)) :
      StopsAt request around disk (.events fault)
  | output {settings : Settings} {source : Source} {fault : Store.OutputFault}
      (verified : around.IsVerified)
      (built : Settings.build request.parameters request.overrides = .ok settings)
      (opened : Source.open disk request.events = .ok source)
      (refused : ((request.session around settings).start disk).result =
        .error (.store (.output fault))) :
      StopsAt request around disk (.output fault)

/-! ## From the start of the session on -/

theorem result_failSession_ne (report : Report) (disk : Disk) (fault : Session.Fault) :
    (report.failSession disk fault).result ≠ .ok .badArguments := by
  unfold Report.failSession
  split <;> nofun

theorem result_close_ne (report : Report) (disk : Disk) (session : Session) {exit : Exit}
    (hexit : exit ≠ .badArguments) :
    (close report disk session exit).result ≠ .ok .badArguments := by
  unfold close
  generalize session.finish disk = finished
  obtain ⟨⟨later, closed⟩, log, result⟩ := finished
  cases result with
  | error fault => exact result_failSession_ne _ _ _
  | ok =>
      simp only
      split
      · nofun
      · simpa [Report.stop] using hexit

theorem result_recordFrom_ne (request : Request) (around : Surroundings) (report : Report)
    (disk : Disk) (session : Session) (source : Source) :
    (request.recordFrom around report disk session source).result ≠ .ok .badArguments := by
  unfold recordFrom
  generalize Event.readWithin around.eventLimits (source.content around.input disk) = read
  obtain ⟨lines, interruption⟩ := read
  simp only
  generalize session.handleLines disk lines = handled
  obtain ⟨⟨later, filled⟩, log, result⟩ := handled
  cases result with
  | error fault =>
      simp only
      split
      · exact result_close_ne _ _ _ nofun
      · nofun
  | ok =>
      rcases interruption with _ | (fault | exceeded)
      · exact result_close_ne _ _ _ nofun
      · exact result_close_ne _ _ _ nofun
      · nofun

theorem result_record_ne (request : Request) (around : Surroundings) (report : Report)
    (disk : Disk) (settings : Settings) (source : Source) :
    (request.record around report disk settings source).result ≠ .ok .badArguments := by
  unfold record
  generalize (Session.create settings (request.recognition around.cwd)).start disk = started
  generalize around.overrun? disk settings = overrun
  obtain ⟨⟨later, session⟩, log, result⟩ := started
  cases result with
  | error fault => exact result_failSession_ne _ _ _
  | ok =>
      cases overrun with
      | some exceeded => nofun
      | none => exact result_recordFrom_ne _ _ _ _ _ _

theorem record_of_refused (report : Report) (source : Source) {fault : Store.OutputFault}
    (refused : ((request.session around settings).start disk).result =
      .error (.store (.output fault))) :
    (request.record around report disk settings source).result = .ok .failure ∧
      (request.record around report disk settings source).disk = disk := by
  have hdisk := Session.disk_start_of_error refused
  unfold record
  unfold session at refused hdisk
  generalize (Session.create settings (request.recognition around.cwd)).start disk = started
    at refused hdisk ⊢
  obtain ⟨⟨later, session⟩, log, result⟩ := started
  cases refused
  exact ⟨rfl, hdisk⟩

/-! ## Before the session -/

/-- A run once the packages are verified. -/
def proceed (request : Request) (around : Surroundings) (report : Report) (disk : Disk) : Ending :=
  match Settings.build request.parameters request.overrides with
  | .error fault => report.fail disk .badArguments fault.message
  | .ok settings =>
    match Source.open disk request.events with
    | .ok source => request.record around report disk settings source
    | .error (.system fault) =>
      report.fail disk .badArguments
        ("Cannot read events from '" ++ request.events ++ "': " ++ fault.message)
    | .error fault => report.breakDown disk (.events fault)

theorem carryOut_cases (request : Request) (around : Surroundings) (disk : Disk) :
    (around.IsVerified ∧
        ∃ report, request.carryOut around disk = request.proceed around report disk) ∨
      ¬around.IsVerified ∧ ∃ breakdown, (request.carryOut around disk).result = .error breakdown := by
  unfold carryOut Surroundings.IsVerified
  generalize Requirements.verify around.installed = verified
  obtain ⟨verdict, log⟩ := verified
  cases verdict with
  | ok met => exact .inl ⟨⟨met, rfl⟩, _, rfl⟩
  | error fault => exact .inr ⟨by simp, _, rfl⟩

theorem carryOut_of_isVerified (request : Request) (disk : Disk) (verified : around.IsVerified) :
    ∃ report, request.carryOut around disk = request.proceed around report disk := by
  rcases request.carryOut_cases around disk with ⟨-, hproceed⟩ | ⟨hunverified, -⟩
  · exact hproceed
  · exact absurd verified hunverified

theorem carryOut_of_stopsAt {fault : StartupFault} (h : request.StopsAt around disk fault) :
    (request.carryOut around disk).result = .ok fault.exit ∧
      (request.carryOut around disk).disk = disk := by
  cases h with
  | settings verified refused =>
      obtain ⟨report, hproceed⟩ := request.carryOut_of_isVerified disk verified
      simp only [hproceed, proceed, refused]
      exact ⟨rfl, rfl⟩
  | events verified built refused =>
      obtain ⟨report, hproceed⟩ := request.carryOut_of_isVerified disk verified
      simp only [hproceed, proceed, built, refused]
      exact ⟨rfl, rfl⟩
  | output verified built opened refused =>
      obtain ⟨report, hproceed⟩ := request.carryOut_of_isVerified disk verified
      simp only [hproceed, proceed, built, opened]
      exact record_of_refused report _ refused

/-- Only what is refused before the session ends a run with the exit code of bad arguments. -/
theorem exists_stopsAt_of_carryOut (h : (request.carryOut around disk).result = .ok .badArguments) :
    ∃ fault, request.StopsAt around disk fault ∧ fault.exit = .badArguments := by
  rcases request.carryOut_cases around disk with
      ⟨verified, report, hproceed⟩ | ⟨-, breakdown, hbroken⟩
  · rw [hproceed, proceed] at h
    cases built : Settings.build request.parameters request.overrides with
    | error fault => exact ⟨_, .settings verified built, rfl⟩
    | ok settings =>
        simp only [built] at h
        cases opened : Source.open disk request.events with
        | ok source =>
            simp only [opened] at h
            exact absurd h (result_record_ne _ _ _ _ _ _)
        | error fault =>
            cases fault with
            | system fault => exact ⟨_, .events verified built opened, rfl⟩
            | _ =>
                simp only [opened] at h
                cases h
  · rw [hbroken] at h
    cases h

end Request

theorem code_eq_one_iff {result : Except Breakdown Exit} :
    result.map Exit.code = .ok 1 ↔ result = .ok .badArguments := by
  rcases result with breakdown | (_ | _ | _ | _) <;> simp [Except.map, Exit.code]

/-- A run that is refused its settings, its events or its output leaves every file as it was. The exit
code is 1 in the first two cases, and in no other, and 2 in the third. -/
theorem disk_of_startup_fault (around : Surroundings) (disk : Disk) {arguments : List Text}
    {reading : Options.Reading Key} (hread : Options.read grammar arguments = .ok reading) :
    let request := Request.ofReading reading
    let ending := run around disk arguments
    (ending.result.map Exit.code = .ok 1 → ending.disk = disk) ∧
      (ending.result.map Exit.code = .ok 1 ↔
        ∃ fault, request.StopsAt around disk fault ∧ fault.exit = .badArguments) ∧
      ∀ fault, request.StopsAt around disk fault →
        ending.result = .ok fault.exit ∧ ending.disk = disk := by
  intro request ending
  have hending : ending = request.carryOut around disk := by
    simp only [ending, run, hread, request]
  rw [hending, code_eq_one_iff]
  refine ⟨?_, ⟨Request.exists_stopsAt_of_carryOut, ?_⟩, fun fault => Request.carryOut_of_stopsAt⟩
  · intro hcode
    obtain ⟨fault, hstops, -⟩ := Request.exists_stopsAt_of_carryOut hcode
    exact (Request.carryOut_of_stopsAt hstops).2
  · rintro ⟨fault, hstops, hexit⟩
    rw [← hexit]
    exact (Request.carryOut_of_stopsAt hstops).1

def quietAround : Surroundings :=
  { input := []
    isTerminal := false
    noColor := none
    installed := Requirements.packages
    cwd := "/work" }

def slashArguments : List Text := ["--output", "/db/", "--mode", "stream"]

def slashReading : Options.Reading Key := { values := [(.mode, "stream"), (.output, "/db/")] }

def unknownArguments : List Text := ["--parameters", "path:/db,depth:3"]

def unknownReading : Options.Reading Key := { values := [(.parameters, "path:/db,depth:3")] }

theorem isVerified_quietAround : quietAround.IsVerified :=
  ⟨true, eq_ok_of_toOption (by decide +kernel)⟩

theorem stopsAt_slashReading :
    (Request.ofReading slashReading).StopsAt quietAround Store.repeatedDisk
      (.output (.notCreated "/db/" ⟨.isADirectory, some "/db/"⟩)) := by
  have built : Settings.build (Request.ofReading slashReading).parameters
      (Request.ofReading slashReading).overrides = .ok { outputPath := "/db/", mode := .stream } :=
    eq_ok_of_toOption (by decide +kernel)
  exact .output isVerified_quietAround built rfl rfl

theorem stopsAt_unknownReading :
    (Request.ofReading unknownReading).StopsAt quietAround Store.repeatedDisk
      (.settings (.unknownOption "depth:3")) := by
  apply Request.StopsAt.settings isVerified_quietAround
  rfl

/-- A slash behind the name of a file gets past the check of the output, but the system does not open
it, so what was to be streamed over stays. -/
theorem disk_of_startup_fault_slash :
    let slash := run quietAround Store.repeatedDisk slashArguments
    let unknown := run quietAround Store.repeatedDisk unknownArguments
    Store.checkOutput Store.repeatedDisk "/db/" = .ok () ∧
      slash.result = .ok .failure ∧ slash.disk = Store.repeatedDisk ∧
      unknown.result = .ok .badArguments ∧ unknown.disk = Store.repeatedDisk := by
  have hcheck : Store.checkOutput Store.repeatedDisk "/db/" = .ok () :=
    eq_ok_of_toOption (by decide +kernel)
  have hslash : Options.read grammar slashArguments = .ok slashReading :=
    eq_ok_of_toOption (by decide +kernel)
  have hunknown : Options.read grammar unknownArguments = .ok unknownReading :=
    eq_ok_of_toOption (by decide +kernel)
  obtain ⟨-, -, hstopped⟩ := disk_of_startup_fault quietAround Store.repeatedDisk hslash
  obtain ⟨-, -, hstopped'⟩ := disk_of_startup_fault quietAround Store.repeatedDisk hunknown
  obtain ⟨hresult, hdisk⟩ := hstopped _ stopsAt_slashReading
  obtain ⟨hresult', hdisk'⟩ := hstopped' _ stopsAt_unknownReading
  exact ⟨hcheck, hresult, hdisk, hresult', hdisk'⟩

end Program

end BuildRecorder
