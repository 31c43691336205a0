import BuildRecorder.Event.Reader
import BuildRecorder.Json.Limits

/-!
# Reading build events within limits

A line that exceeds a limit of the reader is not passed over as one that is no JSON. It ends the
input: the events before it are read, and what comes behind it is not looked at.
-/

namespace BuildRecorder.Event

/-- What ends an input before its end. -/
inductive Interruption where
  | undecodable (fault : Utf8.DecodeFault)
  | overrun (exceeded : Json.Overrun)
deriving DecidableEq

def overrun? (limits : Json.Limits) (line : Text) : Option Json.Overrun :=
  Json.overrun? limits line.trim

/-- The lines of an input up to the first that exceeds a limit, and what ends them before the end
of the input. -/
def readWithin (limits : Json.Limits) (bytes : Bytes) : List (Nat × Line) × Option Interruption :=
  let lines := (readLines bytes).1
  match lines.findSome? (overrun? limits) with
  | some overrun =>
    (numbered (lines.takeWhile fun line => (overrun? limits line).isNone), some (.overrun overrun))
  | none =>
    let (lines, fault) := read bytes
    (lines, fault.map .undecodable)

end BuildRecorder.Event
