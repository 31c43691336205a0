import BuildRecorder.Proofs.Files.Opening
import BuildRecorder.Proofs.Store.Modes
import BuildRecorder.Proofs.Store.Startup

/-!
# What the check of an output path leaves open

The check looks for the directory of the absolute path, while a file is opened by following the path
as it is written. So a path that passes the check may still lead through a directory that is
missing. A streaming store finds out when it is opened, a merging store only when it is closed.
-/

namespace BuildRecorder.Store

variable {disk : Disk} {path : Text}

/-- A merging store starts wherever the check passes. -/
theorem start_merge_of_checkOutput (hcheck : checkOutput disk path = .ok ()) :
    ((create .merge path).start disk).result = .ok () := by
  cases hexists : disk.exists path with
  | false => exact start_merge_of_not_exists hcheck hexists
  | true =>
      obtain ⟨-, -, hdirectory, -⟩ := checkOutput_eq_ok_iff.mp hcheck
      obtain ⟨content, hread⟩ := Disk.exists_read hexists hdirectory
      cases hbytes : Database.readBytes content with
      | ok records =>
          have hload : load disk path = .ok records := by simp only [load, hread, hbytes]
          exact (start_merge_of_load hcheck hload).1
      | error cause =>
          have hload : load disk path = .error (.load ⟨path, cause⟩) := by
            simp only [load, hread, hbytes]
          exact (start_merge_of_load_error hcheck hexists hload).1

theorem MergeStore.finish_of_not_takesFile {store : MergeStore} (hopen : store.isOpen = true)
    (hnul : CodePoint.nul ∉ store.path) (hrefuses : ¬ disk.TakesFile store.path)
    (hencodable : store.database.isEncodable = true) :
    ∃ cause, store.finish disk =
      { state := (disk, { store with finished := true })
        result := .error (.write store.path cause) } := by
  obtain ⟨bytes, hencode⟩ := (Database.exists_encode_document_iff store.database).mpr hencodable
  have hpayload : Utf8.encode store.payload = .ok bytes := hencode
  rw [finish, if_pos hopen]
  simp only [hpayload]
  cases hwritten : disk.replace store.path bytes with
  | ok written =>
      exact absurd ((Disk.replace_eq_ok_iff (ne_nil_of_encode_payload hpayload)).mp hwritten).1
        hrefuses
  | error fault =>
      cases fault with
      | system fault => exact ⟨_, rfl⟩
      | unencodable fault => exact ⟨_, rfl⟩
      | nul => exact absurd rfl (Disk.ne_nul_of_replace hnul hwritten)

/-- Where no file can be written, a run that has started fails when it is closed. -/
theorem run_merge_of_not_takesFile (hstart : ((create .merge path).start disk).result = .ok ())
    (hnul : CodePoint.nul ∉ path) (hrefuses : ¬ disk.TakesFile path) {records : List Record}
    (h : (merged disk path records).isEncodable = true) :
    (run disk (create .merge path) records).state.1 = disk ∧
      ∃ cause, (run disk (create .merge path) records).result = .error (.write path cause) := by
  obtain ⟨store, hopen, rfl, hdatabase, hstate, hresult⟩ :=
    exists_finish_of_run_merge hstart records
  rw [← hdatabase] at h
  obtain ⟨cause, hfinish⟩ := MergeStore.finish_of_not_takesFile hopen hnul hrefuses h
  rw [hstate, hresult]
  simp only [finish, Outcome.within, hfinish]
  exact ⟨trivial, cause, rfl⟩

/-- A streaming store whose path passes the check starts if the path can be opened; if the system
refuses it, the store tells of that. -/
theorem start_stream_of_checkOutput (hcheck : checkOutput disk path = .ok ()) :
    (disk.IsPlaced path → ((create .stream path).start disk).result = .ok ()) ∧
      (Disk.nameFault? path = none → ¬ disk.IsPlaced path →
        ∃ fault, ((create .stream path).start disk).result =
          .error (.output (.notCreated path fault))) := by
  obtain ⟨hne, -, hdirectory, -⟩ := checkOutput_eq_ok_iff.mp hcheck
  rw [← Disk.exists_openToWrite_iff hne hdirectory]
  simp only [create, start, Outcome.within, StreamStore.start, hcheck]
  cases hopen : disk.openToWrite path with
  | ok opened => simp
  | error fault =>
      constructor
      · rintro ⟨opened, hopened⟩
        cases hopened
      · intro hnamed _
        have hreplace : disk.replace path [] = .error fault := by rw [Disk.replace, hopen]
        obtain ⟨system, rfl⟩ := Disk.exists_system_of_replace_error hnamed hreplace
        exact ⟨system, rfl⟩

/-- Where the check passes, a file can be opened exactly if the path is a file name and the
directory that it is written in, as it names it, is there. A path that leads down is always in
order. Of any other file name a streaming store tells when it starts, whereas a merging store
starts, takes all records and fails when it is closed. -/
theorem openToWrite_of_checkOutput (hplain : ∀ entry ∈ disk.tree.nodes, entry.2 ≠ .fullDevice)
    (hnul : CodePoint.nul ∉ path) (hcheck : checkOutput disk path = .ok ()) :
    ((∃ opened, disk.openToWrite path = .ok opened) ↔ disk.IsPlaced path) ∧
      (disk.LeadsDown path → disk.IsPlaced path) ∧
      (disk.IsPlaced path → ((create .stream path).start disk).result = .ok ()) ∧
      (Disk.nameFault? path = none → ¬ disk.IsPlaced path →
        ∃ fault, ((create .stream path).start disk).result =
          .error (.output (.notCreated path fault))) ∧
      ((create .merge path).start disk).result = .ok () ∧
      ∀ records, (merged disk path records).isEncodable = true →
        (disk.IsPlaced path → (run disk (create .merge path) records).result = .ok ()) ∧
        (¬ disk.IsPlaced path →
          (run disk (create .merge path) records).state.1 = disk ∧
            ∃ cause, (run disk (create .merge path) records).result =
              .error (.write path cause)) := by
  obtain ⟨hne, hparent, hdirectory, -⟩ := checkOutput_eq_ok_iff.mp hcheck
  have htakes := Disk.takesFile_iff_isPlaced hplain hne hdirectory
  have hstart := start_merge_of_checkOutput hcheck
  obtain ⟨hstream, hrefused⟩ := start_stream_of_checkOutput hcheck
  refine ⟨Disk.exists_openToWrite_iff hne hdirectory, fun hdown => hdown.isPlaced hparent, hstream,
    hrefused, hstart, fun records hencodable => ⟨fun hplaced => ?_, fun hunplaced => ?_⟩⟩
  · exact (run_merge_of_isEncodable hstart (htakes.mpr hplaced) hencodable).1
  · exact run_merge_of_not_takesFile hstart hnul (mt htakes.mp hunplaced) hencodable

def builtDisk : Disk := { tree := Tree.put {} ["build"] .directory }

theorem openToWrite_of_checkOutput_builtDisk :
    checkOutput builtDisk "build/.//db.json" = .ok () ∧
      (∃ opened, builtDisk.openToWrite "build/.//db.json" = .ok opened) ∧
      (run builtDisk (create .merge "build/.//db.json") [changed]).result = .ok () := by
  have hcheck : checkOutput builtDisk "build/.//db.json" = .ok () :=
    eq_ok_of_toOption (by decide +kernel)
  have hdown : builtDisk.LeadsDown "build/.//db.json" :=
    ⟨by decide +kernel, by decide +kernel, ⟨by decide, by decide, by decide, by decide⟩,
      List.forall_mem_nil _⟩
  obtain ⟨hopens, hplaced, -, -, -, hruns⟩ :=
    openToWrite_of_checkOutput (by decide +kernel) (by decide) hcheck
  have hencodable : (merged builtDisk "build/.//db.json" [changed]).isEncodable = true := by
    decide +kernel
  exact ⟨hcheck, hopens.mpr (hplaced hdown), (hruns [changed] hencodable).1 (hplaced hdown)⟩

/-- A path that passes the check although it leads through a directory that is missing. -/
theorem not_openToWrite_missing :
    checkOutput {} "missing/../db.json" = .ok () ∧
      Disk.openToWrite {} "missing/../db.json" =
        .error (.system ⟨.missing, some "missing/../db.json"⟩) ∧
      ((create .merge "missing/../db.json").start {}).result = .ok () ∧
      (run {} (create .merge "missing/../db.json") []).result =
        .error (.write "missing/../db.json" (.system ⟨.missing, some "missing/../db.json"⟩)) := by
  have hcheck : checkOutput {} "missing/../db.json" = .ok () :=
    eq_ok_of_toOption (by decide +kernel)
  exact ⟨hcheck, by decide +kernel, start_merge_of_checkOutput hcheck, by rfl⟩

end BuildRecorder.Store
