import BuildRecorder.Options.Reader
import BuildRecorder.Program.Ending
import BuildRecorder.Program.Usage
import BuildRecorder.Requirements

/-!
# The package check as a program of its own
-/

namespace BuildRecorder.Program.Packages

inductive Key where
  | help
  | checkAll
deriving DecidableEq

def grammar : Options.Grammar Key :=
  { options := [⟨.help, ["-h", "--help"], .ends⟩, ⟨.checkAll, ["--check-all"], .flag⟩]
    takesOperand := false }

/-- How a check ends. It is settled when the arguments alone end it, before anything is checked. -/
structure Ending where
  settled : Bool
  exit : Exit
  console : Console
deriving DecidableEq

/-- Runs the check. Without arguments it explains itself. -/
def run (palette : Palette) (installed : Requirements.Installed) (arguments : List Text) :
    Except Version.Invalid Ending :=
  match Options.read grammar arguments with
  | .error (.ends _) => .ok ⟨true, .success, { out := packagesHelp }⟩
  | .error (.fault fault) =>
    .ok ⟨true, .failure, { err := argumentError packagesUsage packagesProgramName fault.message }⟩
  | .ok reading =>
    if reading.has .checkAll then
      match Requirements.printAll palette installed with
      | .ok (allMet, console) => .ok ⟨false, if allMet then .success else .failure, console⟩
      | .error fault => .error fault
    else .ok ⟨false, .success, { out := packagesHelp }⟩

end BuildRecorder.Program.Packages
