import BuildRecorder.Proofs.Store.Merge
import BuildRecorder.Proofs.Store.Stream

/-!
# Stores that are closed in any case

A store that refuses a record is closed all the same. A merging store refuses none and fails only
when it is closed; a streaming store fails at the record and is closed well, with the records before
it. If the system refuses nothing, one of the two is all that can go wrong.
-/

namespace BuildRecorder.Store

variable {disk : Disk} {path : Text} {records : List Record}

/-- Closes a store after its intake, however that went. -/
def close (disk : Disk) (store : Store) (records : List Record) :
    Outcome (Disk × Store) Fault Unit :=
  (intake disk store records).state.2.finish (intake disk store records).state.1

end BuildRecorder.Store
