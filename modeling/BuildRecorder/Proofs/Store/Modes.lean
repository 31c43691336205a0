import BuildRecorder.Proofs.Store.Merge
import BuildRecorder.Proofs.Store.Stream
import Mathlib.Data.List.TakeWhile

/-!
# Both disciplines

Where a file can be written at, records that have a UTF-8 form go through in either discipline. The
file of a streaming run is found again record by record, so merging nothing into it makes the same
database as merging the records into nothing.
-/

namespace BuildRecorder.Store

variable {disk : Disk} {path : Text} {records : List Record}

theorem run_stream_of_isEncodable (hcheck : checkOutput disk path = .ok ())
    (htakes : disk.TakesFile path) (h : records.all Record.isEncodable = true) :
    (run disk (create .stream path) records).result = .ok () ∧
      ∃ bytes, Database.readBytes bytes = .ok records ∧
        (run disk (create .stream path) records).state.1 = disk.setContent path bytes := by
  have hstart : (create .stream path).start disk =
      { state := (StreamStore.diskWith disk path [], .stream (StreamStore.storeWith disk path []))
        result := .ok () } := by
    simp only [create, start, Outcome.within, StreamStore.start_of_takesFile hcheck htakes]
  obtain ⟨hadd, hadded, -⟩ := StreamStore.addAll_storeWith htakes [] records
  have htaken : records.takeWhile Record.isEncodable = records :=
    List.takeWhile_eq_self_iff.mpr (List.all_eq_true.mp h)
  rw [htaken, List.nil_append] at hadd
  obtain ⟨hfinished, hload⟩ := StreamStore.finish_storeWith htakes (List.all_eq_true.mp h)
  obtain ⟨hfinish, -⟩ := StreamStore.state_finish_storeWith htakes records
  rw [hfinish] at hload
  obtain ⟨bytes, hread, hbytes⟩ := read_of_load hload
  obtain rfl := Except.ok.inj ((Disk.read_setContent htakes _).symm.trans hread)
  have hopened : ((create .stream path).start disk).result = .ok () := by rw [hstart]
  obtain ⟨hintake, hresult⟩ := intake_of_start hopened (by rw [hstart]) records
  rw [run_eq, Outcome.andThen_of_ok (hresult.trans (hadded h)), hintake, hadd]
  exact ⟨hfinished, _, hbytes, hfinish⟩

theorem start_merge_of_not_exists (hcheck : checkOutput disk path = .ok ())
    (hmissing : disk.exists path = false) :
    ((create .merge path).start disk).result = .ok () := by
  simp [create, start, Outcome.within, MergeStore.start, hcheck, hmissing]

theorem run_merge_of_isEncodable (hstart : ((create .merge path).start disk).result = .ok ())
    (htakes : disk.TakesFile path) (h : (merged disk path records).isEncodable = true) :
    (run disk (create .merge path) records).result = .ok () ∧
      ∃ bytes, Utf8.encode ((merged disk path records).document ++ "\n") = .ok bytes ∧
        (run disk (create .merge path) records).state.1 = disk.setContent path bytes := by
  rcases run_merge_cases hstart records with ⟨bytes, hencode, -, hstate, hdone⟩ | ⟨hwhy, -⟩
  · exact ⟨hdone, bytes, hencode, hstate⟩
  · rcases hwhy with ⟨fault, hfault⟩ | hrefused
    · obtain ⟨bytes, hencode⟩ := (Database.exists_encode_document_iff _).mpr h
      rw [hencode] at hfault
      cases hfault
    · exact absurd htakes hrefused

theorem isEncodable_ofRecords (h : records.all Record.isEncodable = true) :
    (Database.ofRecords records).isEncodable = true := by
  rw [Database.isEncodable, List.all_eq_true]
  intro record hrecord
  exact List.all_eq_true.mp h record (Database.mem_of_mem_ofRecords hrecord)

/-- Merging nothing into the file that a streaming run leaves writes the database of its records. -/
theorem run_merge_nil_of_stream (hcheck : checkOutput disk path = .ok ())
    (htakes : disk.TakesFile path)
    (hwritable : disk.exists path = false → disk.isWritable path = true)
    (h : records.all Record.isEncodable = true) :
    (run (run disk (create .stream path) records).state.1 (create .merge path) []).result =
        .ok () ∧
      ∃ bytes, Utf8.encode ((Database.ofRecords records).document ++ "\n") = .ok bytes ∧
        (run (run disk (create .stream path) records).state.1 (create .merge path) []).state.1.read
          path = .ok bytes := by
  obtain ⟨-, streamed, hstreamed, hbetween⟩ := run_stream_of_isEncodable hcheck htakes h
  rw [hbetween]
  have hload := load_setContent htakes hstreamed
  obtain ⟨hstart, -⟩ :=
    start_merge_of_load (checkOutput_setContent hcheck htakes hwritable streamed) hload
  have hmerged : merged (disk.setContent path streamed) path [] = .ofRecords records := by
    rw [merged, found_of_load hload, List.append_nil]
  have hencodable : (merged (disk.setContent path streamed) path []).isEncodable = true := by
    rw [hmerged]
    exact isEncodable_ofRecords h
  obtain ⟨hdone, bytes, hencode, hstate⟩ :=
    run_merge_of_isEncodable hstart (htakes.setContent streamed) hencodable
  rw [hmerged] at hencode
  refine ⟨hdone, bytes, hencode, ?_⟩
  rw [hstate]
  exact Disk.read_setContent (htakes.setContent streamed) bytes

theorem run_merge_of_not_exists (hcheck : checkOutput disk path = .ok ())
    (htakes : disk.TakesFile path) (hmissing : disk.exists path = false)
    (h : records.all Record.isEncodable = true) :
    (run disk (create .merge path) records).result = .ok () ∧
      ∃ bytes, Utf8.encode ((Database.ofRecords records).document ++ "\n") = .ok bytes ∧
        (run disk (create .merge path) records).state.1.read path = .ok bytes := by
  have hmerged : merged disk path records = .ofRecords records := by
    rw [merged, found_of_not_exists hmissing, List.nil_append]
  have hencodable : (merged disk path records).isEncodable = true := by
    rw [hmerged]
    exact isEncodable_ofRecords h
  obtain ⟨hdone, bytes, hencode, hstate⟩ :=
    run_merge_of_isEncodable (start_merge_of_not_exists hcheck hmissing) htakes hencodable
  rw [hmerged] at hencode
  refine ⟨hdone, bytes, hencode, ?_⟩
  rw [hstate]
  exact Disk.read_setContent htakes bytes

end BuildRecorder.Store
