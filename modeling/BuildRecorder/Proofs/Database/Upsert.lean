import BuildRecorder.Database.Basic

/-!
# What a database holds

A database that records were stored in one after the other: its files are the distinct files of the
records in the order of their first occurrence, and under each file stands the last record for it.
-/

namespace BuildRecorder.Database

variable {db : Database}

theorem contains_iff (file : Text) : db.contains file = true ↔ file ∈ db.files := by
  simp [contains, files]

/-! ## Files in the order of their first occurrence -/

theorem file_replace (record old : Record) :
    (if old.file = record.file then record else old).file = old.file := by
  split
  · next h => exact h.symm
  · rfl

theorem files_upsert (record : Record) :
    (db.upsert record).files =
      if record.file ∈ db.files then db.files else db.files ++ [record.file] := by
  unfold upsert
  simp only [contains_iff]
  split
  · simp [files, Function.comp_def, file_replace]
  · simp [files]

theorem mem_files_upsert_iff (record : Record) (file : Text) :
    file ∈ (db.upsert record).files ↔ file ∈ db.files ∨ file = record.file := by
  rw [files_upsert]
  split
  · next hknown =>
    constructor
    · exact .inl
    · rintro (hfile | rfl)
      · exact hfile
      · exact hknown
  · simp

theorem nodup_files_upsert (h : db.files.Nodup) (record : Record) :
    (db.upsert record).files.Nodup := by
  rw [files_upsert]
  split
  · exact h
  · next hnew =>
    refine List.nodup_append.mpr ⟨h, by simp, ?_⟩
    rintro file hfile _ hrecord rfl
    rw [List.mem_singleton.mp hrecord] at hfile
    exact hnew hfile

theorem upsertAll_cons (record : Record) (records : List Record) :
    db.upsertAll (record :: records) = (db.upsert record).upsertAll records := rfl

theorem upsertAll_append (records more : List Record) :
    db.upsertAll (records ++ more) = (db.upsertAll records).upsertAll more :=
  List.foldl_append

theorem nodup_files_upsertAll (h : db.files.Nodup) (records : List Record) :
    (db.upsertAll records).files.Nodup := by
  induction records generalizing db with
  | nil => exact h
  | cons record records ih => exact ih (nodup_files_upsert h record)

theorem nodup_files_ofRecords (records : List Record) : (ofRecords records).files.Nodup :=
  nodup_files_upsertAll (by simp [files, empty]) records

theorem files_upsertAll (records : List Record) :
    (db.upsertAll records).files =
      db.files ++ ((records.map (·.file)).removeAll db.files).eraseDups := by
  induction records generalizing db with
  | nil => simp [upsertAll]
  | cons record records ih =>
      rw [upsertAll_cons, ih, files_upsert]
      by_cases h : record.file ∈ db.files
      · simp [h, List.removeAll]
      · have hfilter : ((records.map (·.file)).removeAll (db.files ++ [record.file])) =
            ((records.map (·.file)).removeAll db.files).filter
              fun file => !file == record.file := by
          simp [List.removeAll, List.filter_filter, Bool.and_comm, Bool.beq_eq_decide_eq]
        rw [if_neg h, hfilter, List.append_assoc]
        simp [h, List.removeAll, List.eraseDups_cons]

theorem files_ofRecords (records : List Record) :
    (ofRecords records).files = (records.map (·.file)).eraseDups := by
  rw [ofRecords, files_upsertAll]
  simp [empty, files, List.removeAll, List.filter_eq_self.mpr]

theorem mem_files_ofRecords_iff (records : List Record) (file : Text) :
    file ∈ (ofRecords records).files ↔ file ∈ records.map (·.file) := by
  rw [files_ofRecords, List.mem_eraseDups]

theorem mem_or_eq_of_mem_upsert {record old : Record} (h : old ∈ (db.upsert record).records) :
    old ∈ db.records ∨ old = record := by
  unfold upsert at h
  split at h
  · obtain ⟨other, hother, rfl⟩ := List.mem_map.mp h
    split
    · exact .inr rfl
    · exact .inl hother
  · simpa using h

/-- What holds of every record after one was stored holds of that one, and held of all for other
files. -/
theorem forall_mem_upsert_iff {p : Record → Prop} {record : Record} :
    (∀ old ∈ (db.upsert record).records, p old) ↔
      p record ∧ ∀ old ∈ db.records, old.file ≠ record.file → p old := by
  unfold upsert
  split
  · next hknown =>
    simp only [List.forall_mem_map]
    constructor
    · intro h
      obtain ⟨known, hmem, hfile⟩ := List.mem_map.mp ((contains_iff record.file).mp hknown)
      refine ⟨by simpa [hfile] using h known hmem, ?_⟩
      intro old hold hne
      simpa [hne] using h old hold
    · rintro ⟨hrecord, hothers⟩ old hold
      split
      · exact hrecord
      · next hne => exact hothers old hold hne
  · next hnew =>
    have hne (old : Record) (hold : old ∈ db.records) : old.file ≠ record.file := by
      intro hfile
      exact hnew ((contains_iff record.file).mpr (List.mem_map.mpr ⟨old, hold, hfile⟩))
    simp only [List.forall_mem_append, List.forall_mem_singleton]
    constructor
    · rintro ⟨hold, hrecord⟩
      exact ⟨hrecord, fun old hmem _ => hold old hmem⟩
    · rintro ⟨hrecord, hothers⟩
      exact ⟨fun old hmem => hothers old hmem (hne old hmem), hrecord⟩

theorem mem_or_mem_of_mem_upsertAll {records : List Record} {old : Record}
    (h : old ∈ (db.upsertAll records).records) : old ∈ db.records ∨ old ∈ records := by
  induction records generalizing db with
  | nil => exact .inl h
  | cons record records ih =>
      rcases ih h with hmem | hmem
      · rcases mem_or_eq_of_mem_upsert hmem with hold | rfl
        · exact .inl hold
        · exact .inr List.mem_cons_self
      · exact .inr (List.mem_cons_of_mem record hmem)

theorem mem_of_mem_ofRecords {records : List Record} {old : Record}
    (h : old ∈ (ofRecords records).records) : old ∈ records := by
  rcases mem_or_mem_of_mem_upsertAll h with hempty | hmem
  · simp [empty] at hempty
  · exact hmem

/-! ## The last record for a file -/

theorem get?_eq_none_iff (file : Text) : db.get? file = none ↔ file ∉ db.files := by
  simp [get?, files]

theorem file_of_get?_eq_some {file : Text} {record : Record} (h : db.get? file = some record) :
    record.file = file := by
  have hfound := List.find?_some h
  simpa using hfound

theorem get?_upsert (record : Record) (file : Text) :
    (db.upsert record).get? file = if record.file = file then some record else db.get? file := by
  by_cases hknown : db.contains record.file = true
  · have hreplace : (db.upsert record).get? file =
        (db.get? file).map fun old => if old.file = record.file then record else old := by
      rw [upsert, if_pos hknown]
      simp only [get?, List.find?_map, Function.comp_def, file_replace]
    rw [hreplace]
    cases hold : db.get? file with
    | none =>
        have hne : record.file ≠ file := by
          rintro rfl
          exact (get?_eq_none_iff record.file).mp hold ((contains_iff record.file).mp hknown)
        simp [hne]
    | some old => simp [file_of_get?_eq_some hold, @eq_comm _ file, apply_ite some]
  · have hnew : record.file ∉ db.files := mt (contains_iff record.file).mpr hknown
    have hadd : (db.upsert record).get? file =
        (db.get? file).or (if record.file = file then some record else none) := by
      rw [upsert, if_neg hknown]
      by_cases hfile : record.file = file <;> simp [get?, List.find?_append, hfile]
    rw [hadd]
    by_cases hfile : record.file = file
    · rw [(get?_eq_none_iff file).mpr (hfile ▸ hnew)]
      simp
    · simp [hfile]

theorem get?_upsertAll (records : List Record) (file : Text) :
    (db.upsertAll records).get? file =
      (records.findRev? (·.file = file)).or (db.get? file) := by
  induction records generalizing db with
  | nil => simp [upsertAll]
  | cons record records ih =>
      rw [upsertAll_cons, ih, get?_upsert, List.findRev?]
      cases records.findRev? (·.file = file) with
      | some last => simp
      | none => by_cases h : record.file = file <;> simp [h]

theorem get?_ofRecords (records : List Record) (file : Text) :
    (ofRecords records).get? file = records.findRev? (·.file = file) := by
  rw [ofRecords, get?_upsertAll]
  simp [empty, get?]

theorem get?_eq_some_of_mem (hnodup : db.files.Nodup) {record : Record}
    (h : record ∈ db.records) : db.get? record.file = some record := by
  obtain ⟨records⟩ := db
  induction records with
  | nil => simp at h
  | cons first records ih =>
      obtain ⟨hfirst, hrest⟩ := List.nodup_cons.mp hnodup
      rcases List.mem_cons.mp h with rfl | hmem
      · simp [get?]
      · have hne : first.file ≠ record.file := by
          intro heq
          exact hfirst (List.mem_map.mpr ⟨record, hmem, heq.symm⟩)
        have hlater := ih hrest hmem
        simpa [get?, hne] using hlater

theorem upsertAll_eq_append {records : List Record}
    (h : (db.files ++ records.map (·.file)).Nodup) :
    db.upsertAll records = ⟨db.records ++ records⟩ := by
  induction records generalizing db with
  | nil => simp [upsertAll]
  | cons record records ih =>
      have hnew : record.file ∉ db.files := by
        intro hmem
        exact (List.nodup_append.mp h).2.2 _ hmem _ (by simp) rfl
      have hupsert : db.upsert record = ⟨db.records ++ [record]⟩ := by
        rw [upsert, if_neg (mt (contains_iff record.file).mp hnew)]
      rw [upsertAll_cons, hupsert, ih (by simpa [files] using h)]
      simp

/-- A database is built again from its own records. -/
theorem ofRecords_records (hnodup : db.files.Nodup) : ofRecords db.records = db :=
  upsertAll_eq_append (by simpa [empty, files] using hnodup)

end BuildRecorder.Database
