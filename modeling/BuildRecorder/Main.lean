import BuildRecorder.Program.Run

/-!
# The command line

Takes a picture of the files that a run may touch, runs the program on it, and writes back the files
that the run has changed.
-/

namespace BuildRecorder.Main

def request? (arguments : List Text) : Option Program.Request :=
  match Options.read Program.grammar arguments with
  | .ok reading => some (.ofReading reading)
  | .error _ => none

def bytesOf (content : ByteArray) : Bytes := content.toList

partial def readAll (input : IO.FS.Stream) (bytes : Bytes) : IO Bytes := do
  let chunk ← input.read 65536
  if chunk.isEmpty then return bytes
  readAll input (bytes ++ bytesOf chunk)

def succeeds (action : IO α) : IO Bool := do
  match ← action.toBaseIO with
  | .ok _ => return true
  | .error _ => return false

/-- Puts what stands at a place of the file system into the picture. -/
def addPlace (disk : Disk) (place : Place) : IO Disk := do
  if place.isEmpty || (disk.tree.node? place).isSome then return disk
  let path := (Disk.pathOf place).toString
  if ← succeeds (IO.FS.Handle.mk (path ++ "/.") .read) then
    return { disk with tree := disk.tree.put place .directory }
  match ← (IO.FS.readBinFile path).toBaseIO with
  | .error _ => return disk
  | .ok content =>
    let disk := { disk with tree := disk.tree.addFile place (bytesOf content) }
    if ← succeeds (IO.FS.Handle.mk path .readWrite) then return disk
    return { disk with unwritable := Disk.pathOf place :: disk.unwritable }

/-- A picture of the working directory and of all that the paths lead along. -/
def picture (cwd : Place) (paths : List Text) : IO Disk := do
  (Disk.pathOf cwd :: paths).foldlM
    (fun disk path => (disk.placesAlong path).foldlM addPlace disk) { cwd := cwd }

def writeBack (older newer : Tree) : IO Unit := do
  for (place, node) in newer.nodes do
    match node with
    | .file _ content =>
      if older.node? place ≠ some node then
        IO.FS.writeBinFile (Disk.pathOf place).toString ⟨content.toArray⟩
    | _ => pure ()

def run (arguments : List Text) : IO UInt32 := do
  let request := request? arguments
  let cwdPath := Text.ofString (toString (← IO.currentDir))
  let cwd := (cwdPath.splitOn (· = Path.Posix.slash)).filter (!·.isEmpty)
  let disk ← picture cwd ((request.map Program.Request.paths).getD [])
  let readsInput := request.any (·.events = Program.standardInput)
  let input ← if readsInput then readAll (← IO.getStdin) [] else pure []
  let stderr ← IO.getStderr
  let around : Program.Surroundings :=
    { input
      isTerminal := ← stderr.isTty
      noColor := (← IO.getEnv "NO_COLOR").map Text.ofString
      installed := Requirements.packages
      cwd := cwdPath }
  let ending := Program.run around disk arguments
  writeBack disk.tree ending.disk.tree
  (← IO.getStdout).putStr ending.console.out.toString
  stderr.putStr ending.console.err.toString
  match ending.result with
  | .ok exit => return UInt32.ofNat exit.code
  | .error fault =>
    stderr.putStrLn fault.message.toString
    return UInt32.ofNat Program.Exit.badArguments.code

end BuildRecorder.Main

def main (arguments : List String) : IO UInt32 :=
  BuildRecorder.Main.run (arguments.map BuildRecorder.Text.ofString)
