import BuildRecorder.Compiler.Invocation
import BuildRecorder.Event.Basic
import BuildRecorder.Store.Basic

/-!
# Recording sessions

A session owns one store from its start to its end. Every event that the filter takes is looked at
as an invocation of the compiler, and each of its source files becomes a record. An event that
cannot be made sense of is told of and passed over; only the store can make a call fail.
-/

namespace BuildRecorder

structure Stats where
  eventsSeen : Nat := 0
  matched : Nat := 0
  skipped : Nat := 0
  written : Nat := 0
deriving DecidableEq

def Stats.show (stats : Stats) : Text :=
  "SessionStats(events_seen=" ++ Text.ofNat stats.eventsSeen ++ ", invocations_matched=" ++
    Text.ofNat stats.matched ++ ", invocations_skipped=" ++ Text.ofNat stats.skipped ++
    ", records_written=" ++ Text.ofNat stats.written ++ ")"

/-- What a session is told about compilers: their file name, how they are found, and the directory
that relative paths are seen from if their project has none. -/
structure Recognition where
  marker : Text := Compiler.defaultMarker
  strategy : Compiler.Strategy := .auto
  cwd : Text := []
deriving DecidableEq

structure Session where
  settings : Settings
  recognition : Recognition
  store : Store
  stats : Stats := {}

namespace Session

inductive Fault where
  | store (fault : Store.Fault)
  | notSearchable (fault : Compiler.NotSearchable)

def Fault.message : Fault → Text
  | .store fault => fault.message
  | .notSearchable fault => fault.message

def Fault.isExpected : Fault → Bool
  | .store fault => fault.isExpected
  | .notSearchable _ => false

def create (settings : Settings) (recognition : Recognition) : Session :=
  { settings, recognition, store := .create settings.mode settings.outputPath }

def filter (session : Session) : TaskFilter := { customTask := session.settings.customTask }

def tell (level : Log.Level) (message : Text) : Log := [⟨level, .session, message⟩]

def withStore (session : Session) (outcome : Outcome (Disk × Store) Store.Fault α) :
    Outcome (Disk × Session) Fault α :=
  (outcome.within fun (disk, store) => (disk, { session with store })).mapFault .store

def start (disk : Disk) (session : Session) : Outcome (Disk × Session) Fault Unit :=
  let told := tell .debug ("Starting " ++ session.settings.mode.name ++ " session writing to " ++
    session.settings.outputPath)
  let outcome := session.withStore (session.store.start disk)
  { outcome with log := told ++ outcome.log }

def countMatched (session : Session) : Session :=
  { session with stats := { session.stats with matched := session.stats.matched + 1 } }

/-- Passes over an invocation that is refused. Name and project are shown as they came. -/
def skip (disk : Disk) (session : Session) (taskName projectFile : Text)
    (refusal : Compiler.Refusal) : Outcome (Disk × Session) Fault Nat :=
  { state :=
      (disk, { session with stats := { session.stats with skipped := session.stats.skipped + 1 } })
    log := tell .warning ("Skipping " ++ taskName ++ " task of " ++ projectFile ++ ": " ++
      refusal.message)
    result := .ok 0 }

/-- The records of an invocation: one for each source file. -/
def recordsOf (directory : Text) (invocation : Compiler.Invocation) : List Record :=
  invocation.sources.map fun file => { directory, command := invocation.command, file }

def storeRecords (disk : Disk) (session : Session) (records : List Record) :
    Outcome (Disk × Session) Fault Nat :=
  (session.withStore (session.store.addAll disk records)).andThen fun (disk, session) _ =>
    { state :=
        (disk,
          { session with
            stats := { session.stats with written := session.stats.written + records.length } })
      result := .ok records.length }

def record (disk : Disk) (session : Session) (event : Event) : Outcome (Disk × Session) Fault Nat :=
  let session := session.countMatched
  let directory := Path.parent event.projectFile
  let recognition := session.recognition
  match Compiler.classify recognition.strategy recognition.marker recognition.cwd directory
      event.commandLine with
  | .error refusal => session.skip disk event.taskName event.projectFile refusal
  | .ok invocation =>
    let outcome := session.storeRecords disk (recordsOf directory invocation)
    { outcome with log := invocation.log ++ outcome.log }

/-- Records an invocation whose parts have not been checked. The project must be a text, since its
directory is searched for; what the strategy makes of a command line that is none is up to it. -/
def recordValues (disk : Disk) (session : Session) (taskName projectFile commandLine : Json) :
    Outcome (Disk × Session) Fault Nat :=
  let fail := fun fault =>
    { state := (disk, session.countMatched), result := .error (.notSearchable fault) }
  match projectFile with
  | .text project =>
    match Compiler.lineOf session.recognition.strategy commandLine with
    | .ok line => session.record disk ⟨taskName.plain, project, line⟩
    | .error (.refused refusal) => session.countMatched.skip disk taskName.plain project refusal
    | .error (.notSearchable fault) => fail fault
  | value => fail ⟨value.kindName⟩

/-- Takes an event; gives the number of records that were stored for it. -/
def handle (disk : Disk) (session : Session) (fields : Json.Fields) :
    Outcome (Disk × Session) Fault Nat :=
  let session :=
    { session with stats := { session.stats with eventsSeen := session.stats.eventsSeen + 1 } }
  match Event.ofFields fields with
  | .error fault =>
    { state := (disk, session)
      log := tell .warning ("Ignoring malformed build event: " ++ fault.message)
      result := .ok 0 }
  | .ok event =>
    if session.filter.accepts event.taskName then session.record disk event
    else { state := (disk, session), result := .ok 0 }

def finish (disk : Disk) (session : Session) : Outcome (Disk × Session) Fault Unit :=
  (session.withStore (session.store.finish disk)).andThen fun (disk, session) _ =>
    { state := (disk, session)
      log := tell .debug ("Session finished: " ++ session.stats.show)
      result := .ok () }

end Session

end BuildRecorder
