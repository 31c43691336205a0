import BuildRecorder.Files.Disk
import BuildRecorder.Json.Limits
import BuildRecorder.Store.Fault

/-!
# The output path

The check that a store makes before it starts, and the reading of a database file.
-/

namespace BuildRecorder.Store

/-- Whether a database may be written at a path: its directory exists, it is no directory itself,
and it, or else its directory, may be written to. -/
def checkOutput (disk : Disk) (path : Text) : Except OutputFault Unit :=
  let directory := Path.Posix.parent (disk.absolute path)
  if path.isEmpty then .error .emptyPath
  else if !disk.isDirectory directory then .error (.noDirectory path directory)
  else if disk.isDirectory path then .error (.isDirectory path)
  else if disk.exists path then
    if disk.isWritable path then .ok () else .error (.fileNotWritable path)
  else if disk.isWritable directory then .ok ()
  else .error (.directoryNotWritable path directory)

/-- The records of a database file, in their order, duplicates included. -/
def load (disk : Disk) (path : Text) : Except Fault (List Record) :=
  match disk.read path with
  | .error (.system fault) => .error (.output (.notRead path fault))
  | .error fault => .error (.badPath fault)
  | .ok bytes =>
    match Database.readBytes bytes with
    | .ok records => .ok records
    | .error cause => .error (.load ⟨path, cause⟩)

/-- The limit that loading a database file exceeds. A file that is no text exceeds none. -/
def overrun? (limits : Json.Limits) (disk : Disk) (path : Text) : Option Json.Overrun :=
  match disk.read path with
  | .error _ => none
  | .ok bytes =>
    match Utf8.decode bytes with
    | .error _ => none
    | .ok text => Json.overrun? limits text.unifyLineEnds

end BuildRecorder.Store
