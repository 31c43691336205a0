import BuildRecorder.Proofs.Store.Merge

/-!
# Writing back what was read

A database file is UTF-8, but an escape in it can stand for a lone surrogate, and then a record is
read that has no UTF-8 form. Such a file is loaded all the same. A run over it succeeds exactly if
every record of that kind gives way to one that is added for the same file; otherwise it fails when
it is closed, and the file stays as it is, so the next run meets it again.
-/

namespace BuildRecorder.Store

variable {disk : Disk} {path : Text}

theorem run_merge_of_not_isEncodable (hstart : ((create .merge path).start disk).result = .ok ())
    {records : List Record} (h : (merged disk path records).isEncodable = false) :
    (run disk (create .merge path) records).state.1 = disk ∧
      ∃ fault, (run disk (create .merge path) records).result =
        .error (.write path (.unencodable fault)) := by
  obtain ⟨store, hopen, rfl, hdatabase, hstate, hresult⟩ := exists_finish_of_run_merge hstart records
  rw [← hdatabase] at h
  obtain ⟨fault, hrefused⟩ := MergeStore.finish_of_not_isEncodable disk hopen h
  rw [hstate, hresult]
  simp only [finish, Outcome.within, hrefused]
  exact ⟨trivial, fault, rfl⟩

theorem run_merge_of_isEncodable_of_not_isSystem
    (hstart : ((create .merge path).start disk).result = .ok ())
    (hname : Disk.nameFault? path = none) {records : List Record}
    (hsystem : ∀ fault, (run disk (create .merge path) records).result = .error fault →
      fault.isSystem = false)
    (h : (merged disk path records).isEncodable = true) :
    (run disk (create .merge path) records).result = .ok () := by
  obtain ⟨store, hopen, rfl, hdatabase, -, hresult⟩ := exists_finish_of_run_merge hstart records
  rw [← hdatabase] at h
  rw [hresult] at hsystem ⊢
  exact ((finish_merge hopen hname hsystem).1 h).1

/-- The database that is written over a file that was loaded. -/
theorem isEncodable_merged_iff {old added : List Record} (hload : load disk path = .ok old)
    (hadded : ∀ record ∈ added, record.isEncodable = true) :
    (merged disk path added).isEncodable = true ↔
      ∀ record ∈ (Database.ofRecords old).records,
        record.isEncodable = true ∨ record.file ∈ added.map (·.file) := by
  have hmerged : merged disk path added = (Database.ofRecords old).upsertAll added := by
    rw [merged, found_of_load hload]
    exact Database.upsertAll_append _ _
  rw [hmerged]
  exact Database.isEncodable_upsertAll_iff hadded

/-- A run over a file that is loaded starts, and if the system refuses nothing and every record that
is added has a UTF-8 form, it succeeds exactly if each record of the old database has one too or is
replaced. If it fails, it is because the database has no UTF-8 form, and the disk stays as it is. -/
theorem result_run_merge_of_load {old added : List Record}
    (hcheck : checkOutput disk path = .ok ()) (hload : load disk path = .ok old)
    (hadded : ∀ record ∈ added, record.isEncodable = true)
    (hsystem : ∀ fault, (run disk (create .merge path) added).result = .error fault →
      fault.isSystem = false) :
    ((create .merge path).start disk).result = .ok () ∧
      ((run disk (create .merge path) added).result = .ok () ↔
        ∀ record ∈ (Database.ofRecords old).records,
          record.isEncodable = true ∨ record.file ∈ added.map (·.file)) ∧
      ((run disk (create .merge path) added).result ≠ .ok () →
        (run disk (create .merge path) added).state.1 = disk ∧
          ∃ fault, (run disk (create .merge path) added).result =
            .error (.write path (.unencodable fault))) := by
  obtain ⟨hstart, -⟩ := start_merge_of_load hcheck hload
  obtain ⟨content, hread, -⟩ := read_of_load hload
  have hname := Disk.nameFault?_of_read hread
  rw [← isEncodable_merged_iff hload hadded]
  cases hencodable : (merged disk path added).isEncodable with
  | true =>
      have hdone := run_merge_of_isEncodable_of_not_isSystem hstart hname hsystem hencodable
      exact ⟨hstart, by simp [hdone], fun hfailed => absurd hdone hfailed⟩
  | false =>
      obtain ⟨hkept, fault, hfault⟩ := run_merge_of_not_isEncodable hstart hencodable
      exact ⟨hstart, by simp [hfault], fun _ => ⟨hkept, fault, hfault⟩⟩

/-- A database file in which an escape stands for a lone surrogate. -/
def escapedContent : Bytes :=
  ("[\n  \x7b\"directory\": \"/b\", \"command\": \"cc \\ud800\", \"file\": \"x.c\"\x7d\n]\n" :
    Text).flatMap Utf8.encodeChar

def escapedDisk : Disk := { tree := Tree.addFile {} ["db"] escapedContent }

/-- The record that the file is read as. -/
def escaped : Record := ⟨"/b", Text.ofString "cc " ++ [CodePoint.ofNat 0xD800], "x.c"⟩

def recompiled : Record := ⟨"/b", "cc -c x.c", "x.c"⟩

theorem load_escapedDisk : load escapedDisk "/db" = .ok [escaped] :=
  eq_ok_of_toOption (by decide +kernel)

theorem checkOutput_escapedDisk : checkOutput escapedDisk "/db" = .ok () :=
  eq_ok_of_toOption (by decide +kernel)

theorem result_run_merge_of_load_recompiled :
    ((create .merge "/db").start escapedDisk).result = .ok () ∧
      (run escapedDisk (create .merge "/db") [changed, recompiled]).result = .ok () := by
  have hadded : ∀ record ∈ [changed, recompiled], record.isEncodable = true := by decide +kernel
  have hsystem : ∀ fault, (run escapedDisk (create .merge "/db") [changed, recompiled]).result =
      .error fault → fault.isSystem = false := by
    have hdone : (run escapedDisk (create .merge "/db") [changed, recompiled]).result = .ok () :=
      eq_ok_of_toOption (by decide +kernel)
    intro fault hfault
    rw [hdone] at hfault
    cases hfault
  obtain ⟨hstart, hresult, -⟩ :=
    result_run_merge_of_load checkOutput_escapedDisk load_escapedDisk hadded hsystem
  exact ⟨hstart, hresult.mpr (by decide +kernel)⟩

/-- A file that was loaded, a record that has a UTF-8 form, and a run that cannot be closed. -/
theorem not_written_back_escaped :
    load escapedDisk "/db" = .ok [escaped] ∧ changed.isEncodable = true ∧
      ((create .merge "/db").start escapedDisk).result = .ok () ∧
      ∃ fault, (run escapedDisk (create .merge "/db") [changed]).result =
        .error (.write "/db" (.unencodable fault)) := by
  obtain ⟨hstart, -⟩ := start_merge_of_load checkOutput_escapedDisk load_escapedDisk
  have hencodable : (merged escapedDisk "/db" [changed]).isEncodable = false := by decide +kernel
  exact ⟨load_escapedDisk, by decide +kernel, hstart,
    (run_merge_of_not_isEncodable hstart hencodable).2⟩

end BuildRecorder.Store
