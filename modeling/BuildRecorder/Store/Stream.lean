import BuildRecorder.Outcome
import BuildRecorder.Store.Output

/-!
# Streaming stores

A streaming store empties its file at the start, writes every observation as it comes, and closes
the JSON array at the end. What opens the array waits for the first write that follows.
-/

namespace BuildRecorder.Store

/-- An open output with the bytes that have not reached the disk yet. -/
structure Output where
  handle : Handle
  pending : Bytes
deriving DecidableEq

/-- Brings bytes to the disk, those that wait first. What cannot be written waits on. -/
def Output.flush (disk : Disk) (output : Output) (bytes : Bytes) :
    Disk × Output × Except SystemFault Unit :=
  match disk.write output.handle (output.pending ++ bytes) with
  | .ok (disk, handle) => (disk, ⟨handle, []⟩, .ok ())
  | .error fault => (disk, { output with pending := output.pending ++ bytes }, .error fault)

structure StreamStore where
  path : Text
  output : Option Output := none
  added : Nat := 0
  finished : Bool := false

namespace StreamStore

def opening : Text := "[\n"

def separator : Text := ",\n"

/-- ASCII text as bytes. -/
def ascii (t : Text) : Bytes := t.flatMap Utf8.encodeChar

/-- Empties the output file and opens the array. An output that was open is given up, with what it
still had to write. -/
def start (disk : Disk) (store : StreamStore) : Outcome (Disk × StreamStore) Fault Unit :=
  match checkOutput disk store.path with
  | .error fault => { state := (disk, store), result := .error (.output fault) }
  | .ok () =>
    match disk.openToWrite store.path with
    | .error (.system fault) =>
      { state := (disk, store), result := .error (.output (.notCreated store.path fault)) }
    | .error fault => { state := (disk, store), result := .error (.badPath fault) }
    | .ok (opened, handle) =>
      let disk := match store.output with
        | none => opened
        | some old => (old.flush opened []).1
      { state := (disk, { store with output := some ⟨handle, ascii opening⟩ }), result := .ok () }

/-- The text of one more record, behind those that have been written. -/
def chunk (store : StreamStore) (record : Record) : Text :=
  if store.added = 0 then record.compact else separator ++ record.compact

/-- Writes one record. One that has no UTF-8 form is refused as a whole. -/
def add (disk : Disk) (store : StreamStore) (record : Record) :
    Outcome (Disk × StreamStore) Fault Unit :=
  match store.output, store.finished with
  | some output, false =>
    match Utf8.encode (store.chunk record) with
    | .error fault =>
      { state := (disk, store), result := .error (.write store.path (.unencodable fault)) }
    | .ok bytes =>
      match output.flush disk bytes with
      | (disk, output, .ok ()) =>
        { state := (disk, { store with output := some output, added := store.added + 1 })
          result := .ok () }
      | (disk, output, .error fault) =>
        { state := (disk, { store with output := some output })
          result := .error (.write store.path (.system fault)) }
  | _, _ => { state := (disk, store), result := .error (.notOpen .stream store.path) }

def closing (store : StreamStore) : Text := if store.added = 0 then "]\n" else "\n]\n"

def finish (disk : Disk) (store : StreamStore) : Outcome (Disk × StreamStore) Fault Unit :=
  match store.output, store.finished with
  | some output, false =>
    let closed := { store with output := none, finished := true }
    match output.flush disk (ascii store.closing) with
    | (disk, _, .ok ()) =>
      let streamed := "Streamed " ++ Text.ofNat store.added ++ " compile command(s) to " ++
        store.path
      { state := (disk, closed), log := [⟨.info, .database, streamed⟩], result := .ok () }
    | (disk, _, .error fault) =>
      { state := (disk, closed), result := .error (.write store.path (.system fault)) }
  | _, _ => { state := (disk, store), result := .ok () }

/-- What is on the disk when an open store is given up. What waits is still written, if the system
lets it, but nothing closes the array. -/
def giveUp (disk : Disk) (store : StreamStore) : Disk :=
  match store.output with
  | none => disk
  | some output => (output.flush disk []).1

end StreamStore

end BuildRecorder.Store
