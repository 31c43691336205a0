import BuildRecorder.Proofs.Event.Limits
import BuildRecorder.Proofs.Program.Startup
import BuildRecorder.Proofs.Session.Lines
import BuildRecorder.Proofs.Store.GivenUp

/-!
# Whole runs

A run that gets as far as its session reads the events, closes the session however that went, and
ends with an exit code that tells whether anything went wrong on the way. What it does to the disk
is what a store does with the records of the events. There is one exception: at a line that exceeds
a limit of the reader the run breaks down, and the session is not closed.
-/

namespace BuildRecorder.Program

variable {around : Surroundings} {disk : Disk} {arguments : List Text}

/-! ## Closing -/

namespace Request

variable {session : Session} {exit : Exit}

variable {request : Request} {source : Source} {settings : Settings}

end Request

/-! ## The setup of a run -/

/-- What a run has made out when it starts its session. Its arguments are in order, it writes to a
path that is a file name, and its events can be read, from another file than the one at that path. -/
structure Setup (around : Surroundings) (disk : Disk) (arguments : List Text) where
  reading : Options.Reading Key
  settings : Settings
  source : Source
  read : Options.read grammar arguments = .ok reading
  verified : ∃ met, (Requirements.verify around.installed).1 = .ok met
  built : Settings.build (Request.ofReading reading).parameters
    (Request.ofReading reading).overrides = .ok settings
  named : Disk.nameFault? settings.outputPath = none
  opened : Source.open disk (Request.ofReading reading).events = .ok source
  apart : source ≠ .file (some (disk.serialAt settings.outputPath))

namespace Setup

def request (setup : Setup around disk arguments) : Request := .ofReading setup.reading

def recognition (setup : Setup around disk arguments) : Recognition :=
  setup.request.recognition around.cwd

/-- The lines of the input that are read, and what ends them before the end of the input. -/
def input (setup : Setup around disk arguments) :
    List (Nat × Event.Line) × Option Event.Interruption :=
  Event.readWithin around.eventLimits (setup.source.content around.input disk)

def started (setup : Setup around disk arguments) :
    Outcome (Disk × Session) Session.Fault Unit :=
  (Session.create setup.settings setup.recognition).start disk

def intake (setup : Setup around disk arguments) : Outcome (Disk × Session) Session.Fault Unit :=
  Session.intake disk setup.settings setup.recognition setup.input.1

def close (setup : Setup around disk arguments) : Outcome (Disk × Session) Session.Fault Unit :=
  Session.close disk setup.settings setup.recognition setup.input.1

variable (setup : Setup around disk arguments)

/-- The database that is there, with the records of the events that are read. -/
def merged (setup : Setup around disk arguments) : Database :=
  Store.merged disk setup.settings.outputPath
    (Session.recordsOn setup.settings setup.recognition setup.input.1)

end Setup

end BuildRecorder.Program
