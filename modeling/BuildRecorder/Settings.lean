import BuildRecorder.Log
import BuildRecorder.Text.Blank
import BuildRecorder.Text.Case
import BuildRecorder.Text.Quoted

/-!
# Settings of a recording session

Settings are written as a comma separated list of `path:`, `task:` and `mode:` options in any order
and any case. Blank pieces have no effect, and of several options of one name the last one counts.
-/

namespace BuildRecorder

/-- How the database file is kept: the observations are merged into what it holds, or it is written
anew, one observation after the other. -/
inductive Mode where
  | merge
  | stream
deriving DecidableEq

def Mode.name : Mode → Text
  | .merge => "merge"
  | .stream => "stream"

structure Settings where
  outputPath : Text := "compile_commands.json"
  customTask : Option Text := none
  mode : Mode := .merge
deriving DecidableEq

namespace Settings

inductive Fault where
  | unknownOption (option : Text)
  | unknownMode (value : Text)
deriving DecidableEq

def Fault.message : Fault → Text
  | .unknownOption option => "Unknown argument in compile command logger: " ++ option
  | .unknownMode value =>
    "Unknown store mode in compile command logger: " ++ value ++
      " (expected one of: merge, stream)"

def pathOption : Text := "path:"

def taskOption : Text := "task:"

def modeOption : Text := "mode:"

def parseMode (value : Text) : Except Fault Mode :=
  let name := value.trim.lower
  if name = Mode.merge.name then .ok .merge
  else if name = Mode.stream.name then .ok .stream
  else .error (.unknownMode value)

def apply (settings : Settings) (piece : Text) : Except Fault Settings :=
  let lowered := piece.lower
  if piece.isBlank then .ok settings
  else if lowered.startsWith pathOption then
    .ok { settings with outputPath := piece.drop pathOption.length }
  else if lowered.startsWith taskOption then
    .ok { settings with customTask := some (piece.drop taskOption.length) }
  else if lowered.startsWith modeOption then
    match parseMode (piece.drop modeOption.length) with
    | .ok mode => .ok { settings with mode }
    | .error fault => .error fault
  else .error (.unknownOption piece)

def applyAll (settings : Settings) : List Text → Except Fault Settings
  | [] => .ok settings
  | piece :: pieces =>
    match settings.apply piece with
    | .ok settings => settings.applyAll pieces
    | .error fault => .error fault

def parse (parameters : Text) : Except Fault Settings :=
  applyAll {} (parameters.splitOn (· = ','))

def «show» (settings : Settings) : Text :=
  let task : Text := match settings.customTask with
    | none => "None"
    | some task => task.quoted
  let mode : Text := match settings.mode with
    | .merge => "<StoreMode.MERGE: 'merge'>"
    | .stream => "<StoreMode.STREAM: 'stream'>"
  "LoggerConfig(output_path=" ++ settings.outputPath.quoted ++ ", custom_task=" ++ task ++
    ", mode=" ++ mode ++ ")"

def parseLog (parameters : Text) : Log :=
  match parse parameters with
  | .ok settings =>
    if parameters.isEmpty then []
    else [⟨.debug, .settings, "Logger configuration: " ++ settings.show⟩]
  | .error _ => []

/-- Settings given apart from the list; an empty text counts as not given. -/
structure Overrides where
  outputPath : Text := []
  task : Text := []
  mode : Text := []

def override (settings : Settings) (overrides : Overrides) : Except Fault Settings :=
  let settings :=
    { settings with
      outputPath :=
        if overrides.outputPath.isEmpty then settings.outputPath else overrides.outputPath
      customTask := if overrides.task.isEmpty then settings.customTask else some overrides.task }
  if overrides.mode.isEmpty then .ok settings
  else match parseMode overrides.mode with
    | .ok mode => .ok { settings with mode }
    | .error fault => .error fault

/-- The settings in force: those of the list, then those given apart. -/
def build (parameters : Text) (overrides : Overrides) : Except Fault Settings :=
  match parse parameters with
  | .ok settings => settings.override overrides
  | .error fault => .error fault

end Settings

end BuildRecorder
