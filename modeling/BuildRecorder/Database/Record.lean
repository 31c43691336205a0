import BuildRecorder.Json.Quoted
import BuildRecorder.Json.Value

/-!
# Records of a compilation database

A record says how one source file is compiled: in which directory, by which command.
-/

namespace BuildRecorder

structure Record where
  directory : Text
  command : Text
  file : Text
deriving DecidableEq

namespace Record

inductive Fault where
  | notAnObject (kind : Text)
  | badField (name : Text) (fields : Json.Fields)

def Fault.message : Fault → Text
  | .notAnObject kind => "expected object, got " ++ kind
  | .badField name fields =>
    "missing or non-string '" ++ name ++ "' in " ++ (Json.object fields).show

def textField (fields : Json.Fields) (name : Text) : Except Fault Text :=
  match fields.get? name with
  | some (.text value) => .ok value
  | _ => .error (.badField name fields)

def ofJson : Json → Except Fault Record
  | .object fields => do
    let directory ← textField fields "directory"
    let command ← textField fields "command"
    let file ← textField fields "file"
    return { directory, command, file }
  | value => .error (.notAnObject value.kindName)

def fields (record : Record) : List (Text × Text) :=
  [("directory", record.directory), ("command", record.command), ("file", record.file)]

def writeField (field : Text × Text) : Text := Json.quote field.1 ++ ": " ++ Json.quote field.2

def compact (record : Record) : Text :=
  "\x7b" ++ Text.join ", " (record.fields.map writeField) ++ "\x7d"

/-- A record with one field a line, as an item of an array. -/
def indented (record : Record) : Text :=
  "  \x7b\n" ++ Text.join ",\n" (record.fields.map fun field => "    " ++ writeField field) ++
    "\n  \x7d"

end Record

end BuildRecorder
