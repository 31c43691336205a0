import BuildRecorder.Proofs.Database.Content
import BuildRecorder.Proofs.Event.Reader
import BuildRecorder.Proofs.Text.Lines
import Mathlib.Data.List.TakeWhile

/-!
# Events of lines

What a line of an input says does not depend on the lines around it, nor on how any of them ends.
All that a warning takes from where its line stands is a number, the place among the lines.
-/

namespace BuildRecorder.Event

/-- Why a line holds no object. -/
def reason (line : Text) : Text :=
  match Json.read line.trim with
  | .ok value => "expected object, got " ++ value.kindName
  | .error fault => "invalid JSON (" ++ fault.message ++ ")"

def warning (number : Nat) (line : Text) : Log.Entry :=
  ⟨.warning, .events, "Skipping event on line " ++ Text.ofNat number ++ ": " ++ reason line⟩

end BuildRecorder.Event
