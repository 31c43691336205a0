import BuildRecorder.Event.Limits
import BuildRecorder.Program.Arguments
import BuildRecorder.Program.Ending
import BuildRecorder.Program.Usage
import BuildRecorder.Requirements
import BuildRecorder.Session.Lines

/-!
# Runs of the program

A run reads its arguments, opens the events, and records them in one session. The session is closed
also when the events break off or the store fails; every such fault is printed, and the run fails.
A document that exceeds a limit of the reader is no such fault: the run breaks down there, and its
session is given up.
-/

namespace BuildRecorder.Program

/-- What a run finds around it, the disk apart. Relative paths of compilers are seen from `cwd` if
their project has no directory. The calls that are under way when a document is read leave the less
room for nested containers the more they are, so the limits are not the same everywhere. -/
structure Surroundings where
  input : Bytes
  isTerminal : Bool
  noColor : Option Text
  installed : Requirements.Installed
  cwd : Text
  eventLimits : Json.Limits := { depth := 993 }
  databaseLimits : Json.Limits := { depth := 991 }

/-- The limit that a session exceeds when it starts: a merging one loads the database that is
there. -/
def Surroundings.overrun? (around : Surroundings) (disk : Disk) (settings : Settings) :
    Option Json.Overrun :=
  match settings.mode with
  | .merge => Store.overrun? around.databaseLimits disk settings.outputPath
  | .stream => none

inductive Source where
  | standardInput
  | file (opened : Option Nat)

def Source.open (disk : Disk) (path : Text) : Except PathFault Source :=
  if path = Program.standardInput then .ok .standardInput
  else (disk.openToRead path).map .file

/-- What is read from a source. A file is read as it is by now, not as it was when it was opened. -/
def Source.content (input : Bytes) (disk : Disk) : Source → Bytes
  | .standardInput => input
  | .file opened => disk.contentOf opened

namespace Request

def recognition (request : Request) (cwd : Text) : Recognition :=
  { marker := request.marker, strategy := request.strategy, cwd }

def conclude (report : Report) (disk : Disk) (session : Session) : Ending :=
  let stats := session.stats
  let report :=
    if stats.skipped = 0 then report
    else
      report.notify .warning
        ("Skipped " ++ Text.ofNat stats.skipped ++
          " compiler invocation(s), run with --verbose for details")
  let recorded := "Recorded " ++ Text.ofNat stats.written ++ " compile command(s) from " ++
    Text.ofNat stats.matched ++ " compiler invocation(s) into " ++
    disk.absolute session.settings.outputPath
  (report.notify .success recorded).stop disk .success

/-- Closes the session; `exit` is how the run ends if that does not fail. -/
def close (report : Report) (disk : Disk) (session : Session) (exit : Exit) : Ending :=
  let finished := session.finish disk
  let report := report.tell finished.log
  let (disk, session) := finished.state
  match finished.result with
  | .error fault => report.failSession disk fault
  | .ok () => if exit = .success then conclude report disk session else report.stop disk exit

/-- Breaks down without closing the session. -/
def giveUp (report : Report) (disk : Disk) (session : Session) (fault : Breakdown) : Ending :=
  report.breakDown (session.store.giveUp disk) fault

def recordFrom (request : Request) (around : Surroundings) (report : Report) (disk : Disk)
    (session : Session) (source : Source) : Ending :=
  let (lines, interruption) :=
    Event.readWithin around.eventLimits (source.content around.input disk)
  let handled := session.handleLines disk lines
  let report := report.tell handled.log
  let (disk, session) := handled.state
  match handled.result, interruption with
  | .error fault, _ =>
    if fault.isExpected then close (report.notify .error fault.message) disk session .failure
    else giveUp report disk session (.session fault)
  | .ok (), some (.overrun overrun) => giveUp report disk session (.overrun overrun)
  | .ok (), some (.undecodable fault) =>
    let failed := "Failed reading events from '" ++ request.events ++ "': " ++ fault.message
    close (report.notify .error failed) disk session .failure
  | .ok (), none => close report disk session .success

def record (request : Request) (around : Surroundings) (report : Report) (disk : Disk)
    (settings : Settings) (source : Source) : Ending :=
  let started := (Session.create settings (request.recognition around.cwd)).start disk
  match started.result, around.overrun? disk settings with
  | .error fault, _ => (report.tell started.log).failSession started.state.1 fault
  | .ok (), some overrun =>
    -- By then the session has told that it starts, and the store has told nothing.
    (report.tell (started.log.take 1)).breakDown disk (.overrun overrun)
  | .ok (), none =>
    let report := report.tell started.log
    let (disk, session) := started.state
    let report := match session.store.loadFault? with
      | none => report
      | some fault =>
        report.notify .warning (fault.message ++ "; regenerating " ++ settings.outputPath)
    request.recordFrom around report disk session source

def carryOut (request : Request) (around : Surroundings) (disk : Disk) : Ending :=
  let colored := usesColor around.isTerminal false request.noColor around.noColor
  let report : Report :=
    { palette := if colored then .ansi else .plain
      level := if request.verbose then .debug else .info }
  let (verified, log) := Requirements.verify around.installed
  let report := report.tell log
  match verified with
  | .error fault => report.breakDown disk (.requirements fault)
  | .ok _ =>
    let report := report.tell (Settings.parseLog request.parameters)
    match Settings.build request.parameters request.overrides with
    | .error fault => report.fail disk .badArguments fault.message
    | .ok settings =>
      match Source.open disk request.events with
      | .ok source => request.record around report disk settings source
      | .error (.system fault) =>
        report.fail disk .badArguments
          ("Cannot read events from '" ++ request.events ++ "': " ++ fault.message)
      | .error fault => report.breakDown disk (.events fault)

end Request

def Request.paths (request : Request) : List Text :=
  let output := match Settings.build request.parameters request.overrides with
    | .ok settings => [settings.outputPath]
    | .error _ => []
  if request.events = standardInput then output else request.events :: output

def run (around : Surroundings) (disk : Disk) (arguments : List Text) : Ending :=
  match Options.read grammar arguments with
  | .ok reading => (Request.ofReading reading).carryOut around disk
  | .error (.ends .version) => ⟨.ok .success, { out := versionLine }, disk⟩
  | .error (.ends _) => ⟨.ok .success, { out := help }, disk⟩
  | .error (.fault fault) =>
    ⟨.ok .failure, { err := argumentError usage programName fault.message }, disk⟩

end BuildRecorder.Program
