import BuildRecorder.Files.Disk
import BuildRecorder.Json.Limits
import BuildRecorder.Log
import BuildRecorder.Session.Basic
import BuildRecorder.Terminal
import BuildRecorder.Version.Reader

/-!
# How a run ends

A run ends with an exit code, or breaks off with a fault that it has no answer to. What it printed
and what it left on the disk stand in both cases.
-/

namespace BuildRecorder.Program

inductive Exit where
  | success
  | badArguments
  | failure
  | interrupted
deriving DecidableEq

def Exit.code : Exit → Nat
  | .success => 0
  | .badArguments => 1
  | .failure => 2
  | .interrupted => 130

inductive Breakdown where
  | requirements (fault : Version.Invalid)
  | events (fault : PathFault)
  | session (fault : Session.Fault)
  | overrun (exceeded : Json.Overrun)

def Breakdown.message : Breakdown → Text
  | .requirements fault => fault.message
  | .events fault => fault.message
  | .session fault => fault.message
  | .overrun exceeded => exceeded.message

structure Ending where
  result : Except Breakdown Exit
  console : Console
  disk : Disk

/-- How a run reports: in which colours, from which level of the log on, and what it has printed so
far. -/
structure Report where
  palette : Palette
  level : Log.Level
  console : Console := {}

namespace Report

def logLine (entry : Log.Entry) : Text := entry.level.name ++ ": " ++ entry.message ++ "\n"

def tell (report : Report) (log : Log) : Report :=
  { report with console := report.console.printErr ((log.from report.level).flatMap logLine) }

def notify (report : Report) (notice : Notice) (text : Text) : Report :=
  { report with
    console := report.console.printErr (notice.line report.palette notice.isLabelled text) }

def stop (report : Report) (disk : Disk) (exit : Exit) : Ending := ⟨.ok exit, report.console, disk⟩

def fail (report : Report) (disk : Disk) (exit : Exit) (text : Text) : Ending :=
  (report.notify .error text).stop disk exit

def breakDown (report : Report) (disk : Disk) (fault : Breakdown) : Ending :=
  ⟨.error fault, report.console, disk⟩

/-- Ends with a fault of the session: a fault of the store that is to be expected is an error, any
other one a breakdown. -/
def failSession (report : Report) (disk : Disk) (fault : Session.Fault) : Ending :=
  if fault.isExpected then report.fail disk .failure fault.message
  else report.breakDown disk (.session fault)

end Report

/-- What is printed when the user interrupts a run. -/
def interruptNotice (palette : Palette) : Text :=
  Notice.line palette .warning false "\nInterrupted by user. Exiting..."

end BuildRecorder.Program
