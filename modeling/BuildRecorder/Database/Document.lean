import BuildRecorder.Database.Record
import BuildRecorder.Json.Reader
import BuildRecorder.Text.Blank
import BuildRecorder.Text.Lines
import BuildRecorder.Text.Utf8

/-!
# Database files

The content of a database file as records: a JSON array of objects. A blank file and the document
`null` hold no records.
-/

namespace BuildRecorder.Database

inductive ContentFault where
  | undecodable (fault : Utf8.DecodeFault)
  | notJson (fault : Json.Fault)
  | notAList (kind : Text)
  | badEntry (index : Nat) (fault : Record.Fault)

structure LoadFault where
  path : Text
  cause : ContentFault

def LoadFault.message (fault : LoadFault) : Text :=
  match fault.cause with
  | .undecodable cause => "Failed to decode " ++ fault.path ++ ": " ++ cause.message
  | .notJson cause => "Invalid JSON in " ++ fault.path ++ ": " ++ cause.message
  | .notAList kind =>
    "Invalid compilation database format in " ++ fault.path ++ ": expected list, got " ++ kind
  | .badEntry index cause =>
    "Invalid entry " ++ Text.ofNat index ++ " in " ++ fault.path ++ ": " ++ cause.message

def readEntries (index : Nat) : List Json → Except ContentFault (List Record)
  | [] => .ok []
  | entry :: entries =>
    match Record.ofJson entry with
    | .error fault => .error (.badEntry index fault)
    | .ok record => (readEntries (index + 1) entries).map (record :: ·)

def readDocument (text : Text) : Except ContentFault (List Record) :=
  if text.isBlank then .ok []
  else
    match Json.read text with
    | .error fault => .error (.notJson fault)
    | .ok .null => .ok []
    | .ok (.array entries) => readEntries 0 entries
    | .ok value => .error (.notAList value.kindName)

/-- The records in the bytes of a file, in their order, duplicates included. -/
def readBytes (bytes : Bytes) : Except ContentFault (List Record) :=
  match Utf8.decode bytes with
  | .error fault => .error (.undecodable fault)
  | .ok text => readDocument text.unifyLineEnds

end BuildRecorder.Database
