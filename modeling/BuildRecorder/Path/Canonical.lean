import BuildRecorder.Path.Posix
import BuildRecorder.Path.Windows

/-!
# Paths of either flavour

Build logs hold Windows paths, whatever the host is, so the flavour of a path is read off its text.
-/

namespace BuildRecorder.Path

/-- Whether a path is written in the Windows way: with a drive letter or a backslash. -/
def isWindows (path : Text) : Bool :=
  (match path with
    | letter :: colon :: _ => letter.isAsciiLetter && colon = ':'
    | _ => false) ||
  path.any (· = Windows.backslash)

/-- The absolute form of a path, seen from a base directory, with `.` and `..` resolved. Either of
the two makes it a Windows path, so that a rooted path takes the drive of its base. -/
def canonical (base path : Text) : Text :=
  if isWindows path || isWindows base then Windows.normalize (Windows.join base path)
  else Posix.normalize (Posix.join base path)

def parent (path : Text) : Text :=
  if isWindows path then Windows.parent path else Posix.parent path

def basename (path : Text) : Text :=
  if isWindows path then Windows.basename path else Posix.basename path

end BuildRecorder.Path
