import BuildRecorder.Event.Reader
import BuildRecorder.Session.Basic

/-!
# Recording the lines of an input

A session takes numbered lines one after the other. A line that holds no event is told of and
changes nothing.
-/

namespace BuildRecorder.Session

def handleLine (disk : Disk) (session : Session) (number : Nat) (line : Event.Line) :
    Outcome (Disk × Session) Fault Nat :=
  match line.event? with
  | none => { state := (disk, session), log := line.log number, result := .ok 0 }
  | some fields => session.handle disk fields

def handleLines (disk : Disk) (session : Session) :
    List (Nat × Event.Line) → Outcome (Disk × Session) Fault Unit
  | [] => { state := (disk, session), result := .ok () }
  | (number, line) :: lines =>
    (session.handleLine disk number line).andThen fun (disk, session) _ =>
      session.handleLines disk lines

end BuildRecorder.Session
