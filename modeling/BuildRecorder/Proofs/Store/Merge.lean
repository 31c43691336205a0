import BuildRecorder.Proofs.Database.Encodable
import BuildRecorder.Proofs.Database.Upsert
import BuildRecorder.Proofs.Store.Run

/-!
# Runs of a merging store

A merging store never refuses a record once it is open, and it touches the disk only when it is
closed. So a run that ends well is one operation: the records that were found and those that were
added make a database, and its document becomes the content of the file.
-/

namespace BuildRecorder.Store

namespace MergeStore

variable {disk : Disk} {store : MergeStore}

/-- A store that starts finds its path in order and holds what it has found there. -/
theorem start_cases (h : (store.start disk).result = .ok ()) :
    checkOutput disk store.path = .ok () ∧
      ((disk.exists store.path = false ∧
          (store.start disk).state = { store with started := true }) ∨
        (∃ records, load disk store.path = .ok records ∧
          (store.start disk).state =
            { store with database := .ofRecords records, started := true }) ∨
        (∃ fault, load disk store.path = .error (.load fault) ∧
          (store.start disk).state =
            { store with loadFault := some fault, started := true })) := by
  unfold start at h ⊢
  cases hcheck : checkOutput disk store.path with
  | error fault => simp [hcheck] at h
  | ok =>
      simp only [hcheck] at h ⊢
      refine ⟨trivial, ?_⟩
      split at h
      · next hexists =>
        rw [if_pos hexists]
        split at h
        · next records hload => exact .inr (.inl ⟨records, by simp [hload]⟩)
        · next fault hload => exact .inr (.inr ⟨fault, by simp [hload]⟩)
        · simp at h
      · next hexists =>
        rw [if_neg hexists]
        exact .inl ⟨by simpa using hexists, rfl⟩

/-- The store after some more records. -/
def after (store : MergeStore) (records : List Record) : MergeStore :=
  { store with
    database := store.database.upsertAll records
    added := store.added + records.length }

@[simp] theorem database_after (records : List Record) :
    (store.after records).database = store.database.upsertAll records := rfl

theorem after_after (records more : List Record) :
    (store.after records).after more = store.after (records ++ more) := by
  simp [after, Database.upsertAll_append, Nat.add_assoc]

theorem add_of_isOpen (h : store.isOpen = true) (record : Record) :
    (store.add record).state = store.after [record] ∧ (store.add record).result = .ok () := by
  rw [add, if_pos h]
  exact ⟨rfl, rfl⟩

/-- A store that is not open refuses a record, and there is nothing to close. -/
theorem add_of_not_isOpen (h : store.isOpen = false) (record : Record) :
    store.add record = { state := store, result := .error (.notOpen .merge store.path) } := by
  rw [add, h]
  rfl

theorem finish_of_not_isOpen (h : store.isOpen = false) (disk : Disk) :
    store.finish disk = { state := (disk, store), result := .ok () } := by
  rw [finish, h]
  rfl

theorem ne_nil_of_encode_payload {bytes : Bytes} (h : Utf8.encode store.payload = .ok bytes) :
    bytes ≠ [] := by
  have hpayload : store.payload ≠ [] := by simp [payload, Text.ofString]
  exact Utf8.ne_nil_of_encode h hpayload

/-- Closing an open store writes its whole document, or leaves the disk as it is. -/
theorem finish_cases (disk : Disk) (h : store.isOpen = true) :
    (∃ bytes, Utf8.encode store.payload = .ok bytes ∧ disk.TakesFile store.path ∧
        (store.finish disk).state =
          (disk.setContent store.path bytes, { store with finished := true }) ∧
        (store.finish disk).result = .ok ()) ∨
      (((∃ fault, Utf8.encode store.payload = .error fault) ∨ ¬ disk.TakesFile store.path) ∧
        (store.finish disk).state = (disk, { store with finished := true }) ∧
        ∃ fault, (store.finish disk).result = .error fault) := by
  unfold finish
  rw [if_pos h]
  cases hencode : Utf8.encode store.payload with
  | error fault => exact .inr ⟨.inl ⟨fault, rfl⟩, rfl, _, rfl⟩
  | ok bytes =>
      have hbytes := ne_nil_of_encode_payload hencode
      cases hwritten : disk.replace store.path bytes with
      | ok written =>
          obtain ⟨htakes, rfl⟩ := (Disk.replace_eq_ok_iff hbytes).mp hwritten
          exact .inl ⟨bytes, rfl, htakes, by simp [hwritten]⟩
      | error fault =>
          have htakes : ¬ disk.TakesFile store.path := by
            intro htakes
            rw [(Disk.replace_eq_ok_iff hbytes).mpr ⟨htakes, rfl⟩] at hwritten
            cases hwritten
          cases fault <;> exact .inr ⟨.inr htakes, by simp [hwritten]⟩

/-- Where a file can be written at, closing succeeds if the database has a UTF-8 form. -/
theorem finish_of_isEncodable (hopen : store.isOpen = true) (htakes : disk.TakesFile store.path)
    (h : store.database.isEncodable = true) :
    ∃ bytes, Utf8.encode store.payload = .ok bytes ∧
      (store.finish disk).state =
        (disk.setContent store.path bytes, { store with finished := true }) ∧
      (store.finish disk).result = .ok () := by
  obtain ⟨bytes, hencode⟩ := (Database.exists_encode_document_iff store.database).mpr h
  have hpayload : Utf8.encode store.payload = .ok bytes := hencode
  rcases finish_cases disk hopen with ⟨written, hwritten, -, hdone⟩ | ⟨hwhy, -⟩
  · exact ⟨written, hwritten, hdone⟩
  · rcases hwhy with ⟨fault, hfault⟩ | hrefused
    · rw [hpayload] at hfault
      cases hfault
    · exact absurd htakes hrefused

theorem finish_of_not_isEncodable (disk : Disk) (hopen : store.isOpen = true)
    (h : store.database.isEncodable = false) :
    ∃ fault, store.finish disk =
      { state := (disk, { store with finished := true })
        result := .error (.write store.path (.unencodable fault)) } := by
  have hfault : ∃ fault, Utf8.encode store.payload = .error fault := by
    cases hencode : Utf8.encode store.payload with
    | error fault => exact ⟨fault, rfl⟩
    | ok bytes =>
        have hdocument := (Database.exists_encode_document_iff store.database).mp ⟨bytes, hencode⟩
        rw [h] at hdocument
        cases hdocument
  obtain ⟨fault, hfault⟩ := hfault
  refine ⟨fault, ?_⟩
  rw [finish, if_pos hopen]
  simp only [hfault]

/-- What the system lets a store write at takes a file. -/
theorem takesFile_of_finish (hopen : store.isOpen = true)
    (hname : Disk.nameFault? store.path = none) (hencodable : store.database.isEncodable = true)
    (hsystem : ∀ fault, (store.finish disk).result = .error fault → fault.isSystem = false) :
    disk.TakesFile store.path := by
  obtain ⟨bytes, hencode⟩ := (Database.exists_encode_document_iff store.database).mpr hencodable
  have hpayload : Utf8.encode store.payload = .ok bytes := hencode
  cases hwritten : disk.replace store.path bytes with
  | ok written =>
      exact ((Disk.replace_eq_ok_iff (ne_nil_of_encode_payload hpayload)).mp hwritten).1
  | error fault =>
      obtain ⟨system, rfl⟩ := Disk.exists_system_of_replace_error hname hwritten
      have hfault : (store.finish disk).result = .error (.write store.path (.system system)) := by
        rw [finish, if_pos hopen]
        simp only [hpayload, hwritten]
      cases hsystem _ hfault

end MergeStore

variable {disk : Disk} {path : Text}

/-- Closing an open store writes the document of its database, if every record has a UTF-8 form, and
else it fails and leaves the disk as it is. -/
theorem finish_merge {store : MergeStore} (hopen : store.isOpen = true)
    (hname : Disk.nameFault? store.path = none)
    (hsystem : ∀ fault, ((Store.merge store).finish disk).result = .error fault →
      fault.isSystem = false) :
    (store.database.isEncodable = true →
      ((Store.merge store).finish disk).result = .ok () ∧
        ∃ bytes, Utf8.encode (store.database.document ++ "\n") = .ok bytes ∧
          ((Store.merge store).finish disk).state.1.read store.path = .ok bytes) ∧
      (store.database.isEncodable = false →
        ((Store.merge store).finish disk).state.1 = disk ∧
          ∃ fault, ((Store.merge store).finish disk).result =
            .error (.write store.path (.unencodable fault))) := by
  constructor
  · intro hencodable
    have htakes := MergeStore.takesFile_of_finish hopen hname hencodable hsystem
    obtain ⟨bytes, hencode, hwritten, hdone⟩ :=
      MergeStore.finish_of_isEncodable hopen htakes hencodable
    refine ⟨hdone, bytes, hencode, ?_⟩
    simp only [finish, Outcome.within, hwritten]
    exact Disk.read_setContent htakes bytes
  · intro hencodable
    obtain ⟨fault, hrefused⟩ := MergeStore.finish_of_not_isEncodable disk hopen hencodable
    simp only [finish, Outcome.within, hrefused]
    exact ⟨trivial, fault, rfl⟩

/-- A store that has started is open and holds the records that were found. -/
theorem start_merge (h : ((create .merge path).start disk).result = .ok ()) :
    ∃ store : MergeStore, ((create .merge path).start disk).state = (disk, .merge store) ∧
      store.isOpen = true ∧ store.path = path ∧
      store.database = .ofRecords (found disk path) := by
  have hstart : (MergeStore.start disk { path }).result = .ok () := h
  refine ⟨_, rfl, ?_⟩
  rcases MergeStore.start_cases hstart with
      ⟨-, ⟨hmissing, hstate⟩ | ⟨records, hload, hstate⟩ | ⟨fault, hload, hstate⟩⟩
  · rw [hstate, found_of_not_exists hmissing]
    exact ⟨rfl, rfl, rfl⟩
  · rw [hstate, found_of_load hload]
    exact ⟨rfl, rfl, rfl⟩
  · rw [hstate]
    refine ⟨rfl, rfl, ?_⟩
    rw [found_of_load_error hload]
    rfl

theorem addAll_merge (disk : Disk) {store : MergeStore} (h : store.isOpen = true)
    (records : List Record) :
    ((Store.merge store).addAll disk records).state = (disk, .merge (store.after records)) ∧
      ((Store.merge store).addAll disk records).result = .ok () := by
  induction records generalizing store with
  | nil => exact ⟨rfl, rfl⟩
  | cons record records ih =>
      obtain ⟨hstate, hresult⟩ := MergeStore.add_of_isOpen h record
      have hadd : ((Store.merge store).add disk record).state =
          (disk, .merge (store.after [record])) := by
        rw [← hstate]
        rfl
      have hadded : ((Store.merge store).add disk record).result = .ok () := hresult
      rw [addAll, Outcome.andThen_of_ok hadded, hadd]
      have hopen : (store.after [record]).isOpen = true := h
      have hrest := ih hopen
      rwa [MergeStore.after_after, List.singleton_append] at hrest

/-- What a run writes. -/
def merged (disk : Disk) (path : Text) (records : List Record) : Database :=
  .ofRecords (found disk path ++ records)

/-- A store that starts takes all records, and then it holds everything. -/
theorem intake_merge (hstart : ((create .merge path).start disk).result = .ok ())
    (records : List Record) :
    ∃ store : MergeStore, (intake disk (create .merge path) records).state = (disk, .merge store) ∧
      (intake disk (create .merge path) records).result = .ok () ∧ store.isOpen = true ∧
      store.path = path ∧ store.database = merged disk path records := by
  obtain ⟨opened, hstate, hopen, rfl, hdatabase⟩ := start_merge hstart
  obtain ⟨hadd, hadded⟩ := addAll_merge disk hopen records
  obtain ⟨hintake, hresult⟩ := intake_of_start hstart hstate records
  refine ⟨opened.after records, hintake.trans hadd, hresult.trans hadded, hopen, rfl, ?_⟩
  rw [MergeStore.database_after, hdatabase]
  exact (Database.upsertAll_append _ _).symm

/-- A run that starts ends by closing a store that holds everything. -/
theorem exists_finish_of_run_merge (hstart : ((create .merge path).start disk).result = .ok ())
    (records : List Record) :
    ∃ store : MergeStore, store.isOpen = true ∧ store.path = path ∧
      store.database = merged disk path records ∧
      (run disk (create .merge path) records).state = ((Store.merge store).finish disk).state ∧
      (run disk (create .merge path) records).result = ((Store.merge store).finish disk).result := by
  obtain ⟨store, hintake, hresult, hopen, hpath, hdatabase⟩ := intake_merge hstart records
  refine ⟨store, hopen, hpath, hdatabase, ?_⟩
  rw [run_eq, Outcome.andThen_of_ok hresult, hintake]
  exact ⟨rfl, rfl⟩

/-- A run that starts makes the document of everything the content of the file, or leaves the disk
as it is. -/
theorem run_merge_cases (hstart : ((create .merge path).start disk).result = .ok ())
    (records : List Record) :
    (∃ bytes, Utf8.encode ((merged disk path records).document ++ "\n") = .ok bytes ∧
        disk.TakesFile path ∧
        (run disk (create .merge path) records).state.1 = disk.setContent path bytes ∧
        (run disk (create .merge path) records).result = .ok ()) ∨
      (((∃ fault, Utf8.encode ((merged disk path records).document ++ "\n") = .error fault) ∨
          ¬ disk.TakesFile path) ∧
        (run disk (create .merge path) records).state.1 = disk ∧
        ∃ fault, (run disk (create .merge path) records).result = .error fault) := by
  obtain ⟨store, hopen, rfl, hdatabase, hstate, hresult⟩ := exists_finish_of_run_merge hstart records
  rw [hstate, hresult, ← hdatabase]
  rcases MergeStore.finish_cases disk hopen with
      ⟨bytes, hencode, htakes, hwritten, hdone⟩ | ⟨hwhy, hkept, hfault⟩
  · exact .inl ⟨bytes, hencode, htakes, by simp [finish, Outcome.within, hwritten], hdone⟩
  · exact .inr ⟨hwhy, by simp [finish, Outcome.within, hkept], hfault⟩

theorem run_merge_of_ok {records : List Record}
    (hdone : (run disk (create .merge path) records).result = .ok ()) :
    checkOutput disk path = .ok () ∧ disk.TakesFile path ∧
      ∃ bytes, Utf8.encode ((merged disk path records).document ++ "\n") = .ok bytes ∧
        (run disk (create .merge path) records).state.1 = disk.setContent path bytes := by
  have hstart := start_of_run hdone
  have hopened : (MergeStore.start disk { path }).result = .ok () := hstart
  refine ⟨(MergeStore.start_cases hopened).1, ?_⟩
  rcases run_merge_cases hstart records with
      ⟨bytes, hencode, htakes, hstate, -⟩ | ⟨-, -, fault, hfail⟩
  · exact ⟨htakes, bytes, hencode, hstate⟩
  · rw [hfail] at hdone
    cases hdone

/-! ## Runs one after the other -/

theorem start_merge_of_load {records : List Record} (hcheck : checkOutput disk path = .ok ())
    (hload : load disk path = .ok records) :
    ((create .merge path).start disk).result = .ok () ∧
      ((create .merge path).start disk).state =
        (disk, .merge { path, database := .ofRecords records, started := true }) := by
  obtain ⟨content, hread, -⟩ := read_of_load hload
  have hexists := Disk.exists_of_read hread
  simp only [create, start, Outcome.within, MergeStore.start, hcheck, hexists, hload, if_true,
    and_self]

/-- Records that were merged and read back are merged with more records as they would have been in
one go. -/
theorem merged_setContent {bytes : Bytes} (htakes : disk.TakesFile path)
    (first second : List Record)
    (hencode : Utf8.encode ((merged disk path first).document ++ "\n") = .ok bytes) :
    merged (disk.setContent path bytes) path second = merged disk path (first ++ second) := by
  have hnodup := Database.nodup_files_ofRecords (found disk path ++ first)
  have hload := load_setContent htakes (Database.readBytes_document hencode)
  have hold : Database.ofRecords (merged disk path first).records = merged disk path first :=
    Database.ofRecords_records hnodup
  calc merged (disk.setContent path bytes) path second
      = .ofRecords ((merged disk path first).records ++ second) := by
        rw [merged, found_of_load hload]
    _ = (Database.ofRecords (merged disk path first).records).upsertAll second :=
        Database.upsertAll_append _ _
    _ = (merged disk path first).upsertAll second := by rw [hold]
    _ = merged disk path (first ++ second) := by
        rw [merged, merged, ← List.append_assoc]
        exact (Database.upsertAll_append _ _).symm

/-- Two runs one after the other end as one run with the records of both. -/
theorem run_merge_append {first second : List Record}
    (hwritable : disk.exists path = false → disk.isWritable path = true)
    (hfirst : (run disk (create .merge path) first).result = .ok ())
    (hboth : (run disk (create .merge path) (first ++ second)).result = .ok ()) :
    (run (run disk (create .merge path) first).state.1 (create .merge path) second).result =
        .ok () ∧
      (run (run disk (create .merge path) first).state.1 (create .merge path) second).state.1 =
        (run disk (create .merge path) (first ++ second)).state.1 := by
  obtain ⟨hcheck, htakes, bytes, hencode, hbetween⟩ := run_merge_of_ok hfirst
  obtain ⟨-, -, all, hall, hend⟩ := run_merge_of_ok hboth
  rw [hbetween, hend]
  -- The second run finds the document of the first, so it starts.
  have hload := load_setContent htakes (Database.readBytes_document hencode)
  have hcheck' := checkOutput_setContent hcheck htakes hwritable bytes
  have hmerged := merged_setContent htakes first second hencode
  rcases run_merge_cases (start_merge_of_load hcheck' hload).1 second with
      ⟨written, hwritten, -, hstate, hdone⟩ | ⟨hwhy, -⟩
  · rw [hmerged, hall] at hwritten
    obtain rfl : all = written := Except.ok.inj hwritten
    exact ⟨hdone, hstate.trans (Disk.setContent_setContent htakes bytes all)⟩
  · rcases hwhy with ⟨fault, hfault⟩ | hrefused
    · rw [hmerged, hall] at hfault
      cases hfault
    · exact absurd (htakes.setContent bytes) hrefused

/-! ## What a run leaves behind -/

/-- What a run leaves at the path is read back as exactly one record for each file of the records
that were found and added: in the order in which the files first occur, and each with what was last
said of its file. -/
theorem load_run_merge {old added : List Record}
    (hold : load disk path = .ok old ∨ disk.exists path = false ∧ old = [])
    (hdone : (run disk (create .merge path) added).result = .ok ()) :
    ∃ written, load (run disk (create .merge path) added).state.1 path = .ok written ∧
      written.map (·.file) = ((old ++ added).map (·.file)).eraseDups ∧
      (written.map (·.file)).Nodup ∧
      ∀ record ∈ written, (old ++ added).findRev? (·.file = record.file) = some record := by
  have hfound : found disk path = old := by
    rcases hold with hload | ⟨hmissing, rfl⟩
    · exact found_of_load hload
    · exact found_of_not_exists hmissing
  have hmerged : merged disk path added = .ofRecords (old ++ added) := by rw [merged, hfound]
  have hnodup := Database.nodup_files_ofRecords (old ++ added)
  obtain ⟨-, htakes, bytes, hencode, hstate⟩ := run_merge_of_ok hdone
  rw [hmerged] at hencode
  refine ⟨(Database.ofRecords (old ++ added)).records, ?_, ?_, hnodup, ?_⟩
  · rw [hstate]
    exact load_setContent htakes (Database.readBytes_document hencode)
  · exact Database.files_ofRecords (old ++ added)
  · intro record hrecord
    rw [← Database.get?_ofRecords]
    exact Database.get?_eq_some_of_mem hnodup hrecord

/-- Records of which two are for one file. -/
def repeated : List Record :=
  [⟨"/b", "cc -c x.c", "x.c"⟩, ⟨"/b", "cc -c y.c", "y.c"⟩, ⟨"/b", "cc -g -c x.c", "x.c"⟩]

def repeatedDisk : Disk :=
  { tree := Tree.addFile {} ["db"]
      ((Database.listing Record.compact repeated).flatMap Utf8.encodeChar) }

theorem takesFile_repeatedDisk : repeatedDisk.TakesFile "/db" := by
  have hopened : repeatedDisk.openToWrite "/db" =
      .ok (repeatedDisk.setContent "/db" [], .file 0 0) := eq_ok_of_toOption (by decide +kernel)
  exact (Disk.openToWrite_eq_ok_iff.mp hopened).1

def changed : Record := ⟨"/c", "cc -c y.c", "y.c"⟩

theorem load_run_merge_repeated :
    ∃ written,
      load (run repeatedDisk (create .merge "/db") [changed]).state.1 "/db" = .ok written ∧
        written.map (·.file) = ((repeated ++ [changed]).map (·.file)).eraseDups ∧
        (written.map (·.file)).Nodup ∧
        ∀ record ∈ written,
          (repeated ++ [changed]).findRev? (·.file = record.file) = some record :=
  load_run_merge (.inl (eq_ok_of_toOption (by decide +kernel)))
    (eq_ok_of_toOption (by decide +kernel))

end BuildRecorder.Store
