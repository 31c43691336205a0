import BuildRecorder.Proofs.Database.Content
import BuildRecorder.Proofs.Store.Merge

/-!
# Starting on any content

A merging store that finds its path in order starts whatever the file there holds, and leaves it as
it is. A content that holds records gives the database of these; any other one gives an empty
database and the reason, which for an array with bad items is the first of them.
-/

namespace BuildRecorder.Store

variable {disk : Disk} {path : Text} {content : Bytes}

theorem load_of_holds {records : List Record} (hread : disk.read path = .ok content)
    (h : Database.Holds content records) : load disk path = .ok records := by
  simp only [load, hread, Database.readBytes_eq_ok_iff.mpr h]

theorem load_of_not_holds (hread : disk.read path = .ok content)
    (h : ∀ records, ¬ Database.Holds content records) :
    ∃ cause, Database.readBytes content = .error cause ∧
      load disk path = .error (.load ⟨path, cause⟩) := by
  cases hbytes : Database.readBytes content with
  | error cause =>
      refine ⟨cause, rfl, ?_⟩
      simp only [load, hread, hbytes]
  | ok records => exact absurd (Database.readBytes_eq_ok_iff.mp hbytes) (h records)

theorem start_merge_of_load_error {fault : Database.LoadFault}
    (hcheck : checkOutput disk path = .ok ()) (hexists : disk.exists path = true)
    (hload : load disk path = .error (.load fault)) :
    ((create .merge path).start disk).result = .ok () ∧
      ((create .merge path).start disk).state =
        (disk, .merge { path, loadFault := some fault, started := true }) := by
  simp only [create, start, Outcome.within, MergeStore.start, hcheck, hexists, hload, if_true,
    and_self]

/-- No content of the file at an output path keeps a store from starting, and none is changed by it.
The store takes over the records that the content holds. If it holds none, the store is empty and
knows why; the reason for an array is its first item that is no record. -/
theorem start_merge_of_read (hcheck : checkOutput disk path = .ok ())
    (hread : disk.read path = .ok content) :
    let started := (create .merge path).start disk
    started.result = .ok () ∧ started.state.1 = disk ∧
      ∃ store : MergeStore, started.state.2 = .merge store ∧
        (∀ records, Database.Holds content records →
          store.loadFault = none ∧ store.database = .ofRecords records) ∧
        ((∀ records, ¬ Database.Holds content records) →
          store.database = .empty ∧
            ∃ fault : Database.LoadFault, store.loadFault = some fault ∧
              ∀ text items, Database.TextOf content text → Json.read text = .ok (.array items) →
                ∃ front item back cause, items = front ++ item :: back ∧
                  (∀ earlier ∈ front, ∃ record, Record.IsItem earlier record) ∧
                  (∀ record, ¬ Record.IsItem item record) ∧
                  fault.cause = .badEntry front.length cause ∧
                  fault.message = "Invalid entry " ++ Text.ofNat front.length ++ " in " ++ path ++
                    ": " ++ cause.message) := by
  have hexists := Disk.exists_of_read hread
  by_cases hholds : ∃ records, Database.Holds content records
  · obtain ⟨records, hrecords⟩ := hholds
    obtain ⟨hresult, hstate⟩ := start_merge_of_load hcheck (load_of_holds hread hrecords)
    refine ⟨hresult, congrArg Prod.fst hstate, _, congrArg Prod.snd hstate, ?_, ?_⟩
    · intro others hothers
      have hsame := (load_of_holds hread hrecords).symm.trans (load_of_holds hread hothers)
      exact ⟨rfl, congrArg Database.ofRecords (Except.ok.inj hsame)⟩
    · intro hnone
      exact absurd hrecords (hnone records)
  · have hnone : ∀ records, ¬ Database.Holds content records := not_exists.mp hholds
    obtain ⟨cause, hcause, hload⟩ := load_of_not_holds hread hnone
    obtain ⟨hresult, hstate⟩ := start_merge_of_load_error hcheck hexists hload
    refine ⟨hresult, congrArg Prod.fst hstate, _, congrArg Prod.snd hstate, ?_, ?_⟩
    · intro records hrecords
      exact absurd hrecords (hnone records)
    · intro _
      refine ⟨rfl, ⟨path, cause⟩, rfl, ?_⟩
      intro text items htext hjson
      rw [Database.readBytes_of_array htext hjson] at hcause
      obtain ⟨front, item, back, reason, hitems, hfront, hitem, rfl⟩ :=
        Database.readEntries_eq_error hcause
      rw [Nat.zero_add]
      exact ⟨front, item, back, reason, hitems, hfront, hitem, rfl, rfl⟩

/-- A database file whose second item is no record. -/
def brokenContent : Bytes :=
  ("[\n" ++ Record.compact ⟨"/b", "cc -c x.c", "x.c"⟩ ++ ",\n7\n]\n").flatMap Utf8.encodeChar

def brokenDisk : Disk := { tree := Tree.addFile {} ["db"] brokenContent }

theorem start_merge_of_read_broken :
    ((create .merge "/db").start brokenDisk).result = .ok () ∧
      ((create .merge "/db").start brokenDisk).state.1 = brokenDisk ∧
      ∃ store : MergeStore, ((create .merge "/db").start brokenDisk).state.2 = .merge store ∧
        store.database = .empty ∧
          ∃ fault : Database.LoadFault, store.loadFault = some fault ∧
            ∀ text items, Database.TextOf brokenContent text →
              Json.read text = .ok (.array items) →
                ∃ front item back cause, items = front ++ item :: back ∧
                  (∀ earlier ∈ front, ∃ record, Record.IsItem earlier record) ∧
                  (∀ record, ¬ Record.IsItem item record) ∧
                  fault.cause = .badEntry front.length cause ∧
                  fault.message = "Invalid entry " ++ Text.ofNat front.length ++ " in " ++ "/db" ++
                    ": " ++ cause.message := by
  have hcheck : checkOutput brokenDisk "/db" = .ok () := eq_ok_of_toOption (by decide +kernel)
  have hread : brokenDisk.read "/db" = .ok brokenContent := eq_ok_of_toOption (by decide +kernel)
  obtain ⟨hresult, hdisk, store, hstore, -, hbroken⟩ := start_merge_of_read hcheck hread
  refine ⟨hresult, hdisk, store, hstore, hbroken ?_⟩
  intro records hrecords
  have hread := Database.readBytes_eq_ok_iff.mpr hrecords
  have hnone : (Database.readBytes brokenContent).toOption = none := by decide +kernel
  rw [hread] at hnone
  cases hnone

end BuildRecorder.Store
