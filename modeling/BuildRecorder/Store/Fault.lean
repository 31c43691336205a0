import BuildRecorder.Database.Document
import BuildRecorder.Files.Fault
import BuildRecorder.Settings

/-!
# Faults of stores

What can go wrong between a store and its file. The first three kinds are expected: they concern
the output path, what the file holds, and writing it. The others come of a wrong use of the store or
of a path that is no path.
-/

namespace BuildRecorder.Store

inductive OutputFault where
  | emptyPath
  | noDirectory (path directory : Text)
  | isDirectory (path : Text)
  | fileNotWritable (path : Text)
  | directoryNotWritable (path directory : Text)
  | notCreated (path : Text) (fault : SystemFault)
  | notRead (path : Text) (fault : SystemFault)
deriving DecidableEq

def OutputFault.message : OutputFault → Text
  | .emptyPath => "Failed to create compilation database: empty output path"
  | .noDirectory path directory =>
    "Failed to create " ++ path ++ ": directory " ++ directory ++ " does not exist"
  | .isDirectory path => "Failed to create " ++ path ++ ": path is a directory"
  | .fileNotWritable path => "Failed to create " ++ path ++ ": file is not writable"
  | .directoryNotWritable path directory =>
    "Failed to create " ++ path ++ ": directory " ++ directory ++ " is not writable"
  | .notCreated path fault => "Failed to create " ++ path ++ ": " ++ fault.message
  | .notRead path fault => "Failed to read " ++ path ++ ": " ++ fault.message

inductive WriteCause where
  | system (fault : SystemFault)
  | unencodable (fault : Utf8.EncodeFault)
deriving DecidableEq

def WriteCause.message : WriteCause → Text
  | .system fault => fault.message
  | .unencodable fault => fault.message

inductive Fault where
  | output (fault : OutputFault)
  | load (fault : Database.LoadFault)
  | write (path : Text) (cause : WriteCause)
  | notOpen (mode : Mode) (path : Text)
  | badPath (fault : PathFault)
  | unsupported

def Fault.message : Fault → Text
  | .output fault => fault.message
  | .load fault => fault.message
  | .write path cause => "Failed to write " ++ path ++ ": " ++ cause.message
  | .notOpen .merge path => "MergingCompileCommandsStore for " ++ path ++ " is not open"
  | .notOpen .stream path => "StreamingCompileCommandsStore for " ++ path ++ " is not open"
  | .badPath fault => fault.message
  | .unsupported => []

/-- Whether a fault is one that a run reports and ends with. -/
def Fault.isExpected : Fault → Bool
  | .output _ | .load _ | .write _ _ => true
  | _ => false

end BuildRecorder.Store
