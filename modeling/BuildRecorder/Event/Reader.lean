import BuildRecorder.Json.Reader
import BuildRecorder.Log
import BuildRecorder.Text.Blank
import BuildRecorder.Text.Lines
import BuildRecorder.Text.Utf8

/-!
# Reading build events

Events come one JSON object per line. A line that is no object is told of and passed over, so it
affects no other line. An input is decoded piece by piece, so the lines before a piece that is no
UTF-8 are read. Here a line may nest as deep as it likes; `readWithin` sets limits to that.
-/

namespace BuildRecorder.Event

inductive Line where
  | blank
  | event (fields : Json.Fields)
  | notJson (fault : Json.Fault)
  | notAnObject (kind : Text)

def Line.ofText (t : Text) : Line :=
  let t := t.trim
  if t.isEmpty then .blank
  else
    match Json.read t with
    | .ok (.object fields) => .event fields
    | .ok value => .notAnObject value.kindName
    | .error fault => .notJson fault

def Line.event? : Line → Option Json.Fields
  | .event fields => some fields
  | _ => none

def Line.log (number : Nat) : Line → Log
  | .notJson fault =>
    [⟨.warning, .events, "Skipping event on line " ++ Text.ofNat number ++ ": invalid JSON (" ++
      fault.message ++ ")"⟩]
  | .notAnObject kind =>
    [⟨.warning, .events, "Skipping event on line " ++ Text.ofNat number ++
      ": expected object, got " ++ kind⟩]
  | _ => []

def numbered (lines : List Text) : List (Nat × Line) :=
  (lines.map Line.ofText).zipIdx 1 |>.map fun (line, number) => (number, line)

/-- Whether a fault is a sequence that the end of the bytes cuts off. Two bytes of a would-be
surrogate count as such, since they are refused only with the byte that is missing. -/
def isCutOff (bytes : Bytes) (fault : Utf8.DecodeFault) : Bool :=
  fault.reason = .unexpectedEnd ||
    (fault.lead = 0xED &&
      match bytes.drop fault.start with
      | [_, b] => 0xA0 ≤ b && b < 0xC0
      | _ => false)

/-- How many bytes of an input are read at a time. -/
def pieceLength : Nat := 8192

def pieces (bytes : Bytes) : List Bytes :=
  match bytes with
  | [] => []
  | b :: rest => (b :: rest).take pieceLength :: pieces ((b :: rest).drop pieceLength)
termination_by bytes.length
decreasing_by
  simp only [List.length_drop, List.length_cons, pieceLength]
  omega

/-- Decodes bytes as far as more may follow them; gives also the sequence that their end cuts off. -/
def decodePiece (bytes : Bytes) : Except Utf8.DecodeFault (Text × Bytes) :=
  match Utf8.decode bytes with
  | .ok text => .ok (text, [])
  | .error fault =>
    if isCutOff bytes fault then
      (Utf8.decode (bytes.take fault.start)).map fun text => (text, bytes.drop fault.start)
    else .error fault

/-- Decodes pieces one after the other, the first behind bytes that still wait; gives the text up to
the first piece that is refused, and why it is. A sequence that the last piece cuts off is refused
on its own. -/
def decodePieces (waiting : Bytes) : List Bytes → Text × Option Utf8.DecodeFault
  | [] =>
    match Utf8.decode waiting with
    | .ok text => (text, none)
    | .error fault => ([], some fault)
  | piece :: pieces =>
    match decodePiece (waiting ++ piece) with
    | .error fault => ([], some fault)
    | .ok (text, waiting) =>
      let (later, fault) := decodePieces waiting pieces
      (text ++ later, fault)

/-- The lines of an input, and the fault that ends it. Nothing of a piece with a fault is read, and
of a line only if its end comes before. -/
def readLines (bytes : Bytes) : List Text × Option Utf8.DecodeFault :=
  match decodePieces [] (pieces bytes) with
  | (text, none) => (text.lines, none)
  | (text, some fault) => (text.completeLines, some fault)

def read (bytes : Bytes) : List (Nat × Line) × Option Utf8.DecodeFault :=
  let (lines, fault) := readLines bytes
  (numbered lines, fault)

def events (lines : List (Nat × Line)) : List Json.Fields :=
  lines.filterMap fun (_, line) => line.event?

def readLog (lines : List (Nat × Line)) : Log := lines.flatMap fun (number, line) => line.log number

end BuildRecorder.Event
