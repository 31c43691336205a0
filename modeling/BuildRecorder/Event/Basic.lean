import BuildRecorder.Json.Value

/-!
# Build events

An event tells that a task of the build ran a command line, and for which project. Only the compiler
task, and the tasks whose names contain a text of the user's choice, are recorded.
-/

namespace BuildRecorder

structure Event where
  taskName : Text
  projectFile : Text
  commandLine : Text
deriving DecidableEq

namespace Event

/-- The first field of an event that is missing or no text. -/
structure Malformed where
  field : Text
deriving DecidableEq

def Malformed.message (fault : Malformed) : Text :=
  "event field '" ++ fault.field ++ "' is missing or not a string"

def textField (fields : Json.Fields) (name : Text) : Except Malformed Text :=
  match fields.get? name with
  | some (.text value) => .ok value
  | _ => .error ⟨name⟩

def ofFields (fields : Json.Fields) : Except Malformed Event := do
  let taskName ← textField fields "taskName"
  let projectFile ← textField fields "projectFile"
  let commandLine ← textField fields "commandLine"
  return { taskName, projectFile, commandLine }

end Event

structure TaskFilter where
  taskName : Text := "CL"
  customTask : Option Text := none
deriving DecidableEq

/-- Takes the compiler task itself, and every task that contains the custom name. -/
def TaskFilter.accepts (filter : TaskFilter) (name : Text) : Bool :=
  name = filter.taskName ||
    match filter.customTask with
    | none => false
    | some custom => !custom.isEmpty && Text.contains custom name

end BuildRecorder
