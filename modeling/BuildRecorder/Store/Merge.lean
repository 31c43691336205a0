import BuildRecorder.Database.Basic
import BuildRecorder.Outcome
import BuildRecorder.Store.Output

/-!
# Merging stores

A merging store loads the existing database, takes observations into it, and writes the whole of it
once, at the end. A file that is no database is passed over: the store starts empty and remembers
why.
-/

namespace BuildRecorder.Store

structure MergeStore where
  path : Text
  database : Database := .empty
  loadFault : Option Database.LoadFault := none
  added : Nat := 0
  started : Bool := false
  finished : Bool := false

namespace MergeStore

def isOpen (store : MergeStore) : Bool := store.started && !store.finished

def start (disk : Disk) (store : MergeStore) : Outcome MergeStore Fault Unit :=
  match checkOutput disk store.path with
  | .error fault => { state := store, result := .error (.output fault) }
  | .ok () =>
    if disk.exists store.path then
      match load disk store.path with
      | .ok records =>
        let database := Database.ofRecords records
        let loaded := "Loaded " ++ Text.ofNat database.size ++ " compile command(s) from " ++
          store.path
        { state := { store with database, started := true }
          log := Database.collapseLog records ++ [⟨.info, .database, loaded⟩]
          result := .ok () }
      | .error (.load fault) =>
        let warning := fault.message ++ "; starting with an empty compilation database"
        { state := { store with loadFault := some fault, started := true }
          log := [⟨.warning, .database, warning⟩]
          result := .ok () }
      | .error fault => { state := store, result := .error fault }
    else { state := { store with started := true }, result := .ok () }

def add (store : MergeStore) (record : Record) : Outcome MergeStore Fault Unit :=
  if store.isOpen then
    let verb : Text := if store.database.contains record.file then "Updated" else "Added"
    { state :=
        { store with database := store.database.upsert record, added := store.added + 1 }
      log := [⟨.debug, .database, verb ++ " compile command for " ++ record.file⟩]
      result := .ok () }
  else { state := store, result := .error (.notOpen .merge store.path) }

/-- What is written: the document and a line end. -/
def payload (store : MergeStore) : Text := store.database.document ++ "\n"

/-- Writes the whole database. It is encoded before the file is opened, so a database that has no
UTF-8 form leaves the file as it is. -/
def finish (disk : Disk) (store : MergeStore) : Outcome (Disk × MergeStore) Fault Unit :=
  if store.isOpen then
    let closed := { store with finished := true }
    match Utf8.encode store.payload with
    | .error fault =>
      { state := (disk, closed), result := .error (.write store.path (.unencodable fault)) }
    | .ok bytes =>
      match disk.replace store.path bytes with
      | .ok disk =>
        let wrote := "Wrote " ++ Text.ofNat store.database.size ++ " compile command(s) to " ++
          store.path
        { state := (disk, closed), log := [⟨.info, .database, wrote⟩], result := .ok () }
      | .error (.system fault) =>
        { state := (disk, closed), result := .error (.write store.path (.system fault)) }
      | .error (.unencodable fault) =>
        { state := (disk, closed), result := .error (.write store.path (.unencodable fault)) }
      | .error .nul => { state := (disk, closed), result := .error (.badPath .nul) }
  else { state := (disk, store), result := .ok () }

end MergeStore

end BuildRecorder.Store
