import BuildRecorder.Store.Merge
import BuildRecorder.Store.Stream

/-!
# Stores

A store is opened, takes records, and is closed once. It follows one of two disciplines; a store
with none supports no call.
-/

namespace BuildRecorder

inductive Store where
  | plain (path : Text)
  | merge (store : Store.MergeStore)
  | stream (store : Store.StreamStore)

namespace Store

/-- A store that has not been opened yet. -/
def create (mode : Mode) (path : Text) : Store :=
  match mode with
  | .merge => .merge { path }
  | .stream => .stream { path }

def path : Store → Text
  | .plain path => path
  | .merge store => store.path
  | .stream store => store.path

def added : Store → Nat
  | .plain _ => 0
  | .merge store => store.added
  | .stream store => store.added

/-- Why the existing file was passed over, if it was. -/
def loadFault? : Store → Option Database.LoadFault
  | .merge store => store.loadFault
  | _ => none

def start (disk : Disk) : Store → Outcome (Disk × Store) Fault Unit
  | .plain path => { state := (disk, .plain path), result := .error .unsupported }
  | .merge store => (store.start disk).within fun store => (disk, .merge store)
  | .stream store => (store.start disk).within fun (disk, store) => (disk, .stream store)

def add (disk : Disk) (record : Record) : Store → Outcome (Disk × Store) Fault Unit
  | .plain path => { state := (disk, .plain path), result := .error .unsupported }
  | .merge store => (store.add record).within fun store => (disk, .merge store)
  | .stream store => (store.add disk record).within fun (disk, store) => (disk, .stream store)

def finish (disk : Disk) : Store → Outcome (Disk × Store) Fault Unit
  | .plain path => { state := (disk, .plain path), result := .error .unsupported }
  | .merge store => (store.finish disk).within fun (disk, store) => (disk, .merge store)
  | .stream store => (store.finish disk).within fun (disk, store) => (disk, .stream store)

/-- What is on the disk when a store is given up; a merging store leaves nothing behind. -/
def giveUp (disk : Disk) : Store → Disk
  | .stream store => store.giveUp disk
  | _ => disk

/-- Takes records one after the other, up to the first that is refused. -/
def addAll (disk : Disk) (store : Store) : List Record → Outcome (Disk × Store) Fault Unit
  | [] => { state := (disk, store), result := .ok () }
  | record :: records =>
    (store.add disk record).andThen fun (disk, store) _ => store.addAll disk records

end Store

end BuildRecorder
