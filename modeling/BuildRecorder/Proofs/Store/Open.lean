import BuildRecorder.Proofs.Store.Merge
import BuildRecorder.Proofs.Store.Stream

/-!
# Open stores

What an open store does with records, wherever its output leads and whatever became of it before. A
merging store refuses none. A streaming store refuses a record that has no UTF-8 form, and every
record if its output is a device; on a file it takes all others. So of records that are alike in
this a store takes all or refuses the first, and a refusal leaves the disk and the count as they
were.
-/

namespace BuildRecorder.Store

/-- Whether a store takes records. -/
def isOpen : Store → Bool
  | .plain _ => false
  | .merge store => store.isOpen
  | .stream store => store.isOpen

namespace StreamStore

variable {store : StreamStore}

/-- An open store whose output is a file. -/
structure OnFile (store : StreamStore) : Prop where
  output : ∃ serial offset pending, store.output = some ⟨.file serial offset, pending⟩
  isOpen : store.finished = false

theorem onFile_or_onDevice (h : store.isOpen = true) : store.OnFile ∨ store.OnDevice := by
  obtain ⟨⟨handle, pending⟩, houtput, hunfinished⟩ := isOpen_eq_true_iff.mp h
  cases handle with
  | file serial offset => exact .inl ⟨⟨serial, offset, pending, houtput⟩, hunfinished⟩
  | device => exact .inr ⟨⟨pending, houtput⟩, hunfinished⟩

theorem OnFile.isOpen_eq_true (h : store.OnFile) : store.isOpen = true := by
  obtain ⟨serial, offset, pending, houtput⟩ := h.output
  exact isOpen_eq_true_iff.mpr ⟨_, houtput, h.isOpen⟩

theorem add_of_not_isOpen (h : store.isOpen = false) (disk : Disk) (record : Record) :
    store.add disk record =
      { state := (disk, store), result := .error (.notOpen .stream store.path) } := by
  unfold add
  split
  · next output houtput hunfinished =>
    rw [isOpen_eq_true_iff.mpr ⟨output, houtput, hunfinished⟩] at h
    cases h
  · rfl

theorem finish_of_not_isOpen (h : store.isOpen = false) (disk : Disk) :
    store.finish disk = { state := (disk, store), result := .ok () } := by
  unfold finish
  split
  · next output houtput hunfinished =>
    rw [isOpen_eq_true_iff.mpr ⟨output, houtput, hunfinished⟩] at h
    cases h
  · rfl

theorem flush_file (disk : Disk) (serial offset : Nat) (pending bytes : Bytes) :
    ∃ disk' offset', Output.flush disk ⟨.file serial offset, pending⟩ bytes =
      (disk', ⟨.file serial offset', []⟩, .ok ()) := by
  unfold Output.flush Disk.write
  by_cases hempty : (pending ++ bytes).isEmpty
  · exact ⟨disk, offset, by simp [hempty]⟩
  · exact ⟨_, _, by simp only [hempty, Bool.false_eq_true, if_false]; rfl⟩

/-- A file takes every record that has a UTF-8 form. -/
theorem OnFile.add (h : store.OnFile) (disk : Disk) {record : Record}
    (hencodable : record.isEncodable = true) :
    ∃ disk' later, store.add disk record = { state := (disk', later), result := .ok () } ∧
      later.OnFile ∧ later.path = store.path ∧ later.added = store.added + 1 := by
  obtain ⟨⟨serial, offset, pending, houtput⟩, hunfinished⟩ := h
  have hencode := Utf8.encode_eq_ok_iff.mpr
    ⟨(isEncodable_chunk store record).trans hencodable, rfl⟩
  obtain ⟨disk', offset', hflush⟩ := flush_file disk serial offset pending
    ((store.chunk record).flatMap Utf8.encodeChar)
  exact ⟨disk', _, add_of_flush houtput hunfinished hencode hflush,
    ⟨⟨serial, offset', [], rfl⟩, hunfinished⟩, rfl, rfl⟩

theorem OnFile.addAll (h : store.OnFile) (disk : Disk) {records : List Record}
    (hencodable : ∀ record ∈ records, record.isEncodable = true) :
    ((Store.stream store).addAll disk records).result = .ok () ∧
      ((Store.stream store).addAll disk records).state.2.added = store.added + records.length := by
  induction records generalizing disk store with
  | nil => exact ⟨rfl, rfl⟩
  | cons record records ih =>
      obtain ⟨hrecord, hlater⟩ := List.forall_mem_cons.mp hencodable
      obtain ⟨disk', later, hadd, hfile, -, hadded⟩ := h.add disk hrecord
      have htaken : (Store.stream store).add disk record =
          { state := (disk', .stream later), result := .ok () } := by
        simp only [Store.add, Outcome.within, hadd]
      obtain ⟨hresult, hcount⟩ := ih hfile disk' hlater
      rw [Store.addAll, htaken, Outcome.andThen_of_ok rfl]
      refine ⟨hresult, hcount.trans ?_⟩
      rw [hadded, List.length_cons, Nat.add_assoc, Nat.add_comm 1]

/-- An open store fails at records only in writing one of them. -/
theorem addAll_of_isOpen (h : store.isOpen = true) (disk : Disk) (records : List Record) :
    ((Store.stream store).addAll disk records).result = .ok () ∨
      ∃ cause, ((Store.stream store).addAll disk records).result =
        .error (.write store.path cause) := by
  induction records generalizing disk store with
  | nil => exact .inl rfl
  | cons record records ih =>
      rw [Store.addAll, Store.add]
      rcases onFile_or_onDevice h with hfile | hdevice
      · cases hencodable : record.isEncodable with
        | false =>
            obtain ⟨fault, hrefused⟩ := add_of_not_isEncodable h disk hencodable
            rw [hrefused, Outcome.andThen_of_error rfl]
            exact .inr ⟨.unencodable fault, rfl⟩
        | true =>
            obtain ⟨disk', later, hadd, hfile', hpath, -⟩ := hfile.add disk hencodable
            rw [hadd, Outcome.andThen_of_ok rfl, ← hpath]
            exact ih hfile'.isOpen_eq_true disk'
      · obtain ⟨later, cause, hadd, -⟩ := hdevice.add disk record
        rw [hadd, Outcome.andThen_of_error rfl]
        exact .inr ⟨cause, rfl⟩

end StreamStore

/-! ## The count -/

theorem added_start (disk : Disk) (store : Store) :
    (store.start disk).state.2.added = store.added := by
  cases store with
  | plain path => rfl
  | merge store =>
      simp only [start, Outcome.within, MergeStore.start, added]
      split
      · rfl
      · split
        · split <;> rfl
        · rfl
  | stream store =>
      simp only [start, Outcome.within, StreamStore.start, added]
      split
      · rfl
      · split <;> rfl

theorem added_finish (disk : Disk) (store : Store) :
    (store.finish disk).state.2.added = store.added := by
  cases store with
  | plain path => rfl
  | merge store =>
      simp only [finish, Outcome.within, MergeStore.finish, added]
      split
      · split
        · rfl
        · split <;> rfl
      · rfl
  | stream store =>
      simp only [finish, Outcome.within, StreamStore.finish, added]
      split
      · split <;> rfl
      · rfl

/-! ## All or none -/

/-- A refusal leaves the disk and the count as they were. -/
theorem add_of_error {disk : Disk} {store : Store} {record : Record} {fault : Fault}
    (h : (store.add disk record).result = .error fault) :
    (store.add disk record).state.1 = disk ∧
      (store.add disk record).state.2.added = store.added := by
  cases store with
  | plain path => exact ⟨rfl, rfl⟩
  | merge store =>
      refine ⟨rfl, ?_⟩
      cases hopen : store.isOpen with
      | false => simp only [add, Outcome.within, MergeStore.add_of_not_isOpen hopen]
      | true =>
          have hdone : ((Store.merge store).add disk record).result = .ok () :=
            (MergeStore.add_of_isOpen hopen record).2
          rw [hdone] at h
          cases h
  | stream store =>
      simp only [add, Outcome.within] at h ⊢
      cases hopen : store.isOpen with
      | false =>
          rw [StreamStore.add_of_not_isOpen hopen]
          exact ⟨rfl, rfl⟩
      | true =>
          cases hencodable : record.isEncodable with
          | false =>
              obtain ⟨cause, hrefused⟩ := StreamStore.add_of_not_isEncodable hopen disk hencodable
              rw [hrefused]
              exact ⟨rfl, rfl⟩
          | true =>
              rcases StreamStore.onFile_or_onDevice hopen with hfile | hdevice
              · obtain ⟨_, _, hadd, -⟩ := hfile.add disk hencodable
                rw [hadd] at h
                cases h
              · obtain ⟨later, cause, hadd, -, -, hadded⟩ := hdevice.add disk record
                rw [hadd]
                exact ⟨rfl, hadded⟩

/-- A store that takes one record takes all that are like it. -/
theorem addAll_of_add {disk : Disk} {store : Store} {first : Record} {rest : List Record}
    (halike : ∀ record ∈ rest, record.isEncodable = first.isEncodable)
    (h : (store.add disk first).result = .ok ()) :
    (store.addAll disk (first :: rest)).result = .ok () ∧
      (store.addAll disk (first :: rest)).state.2.added =
        store.added + (first :: rest).length := by
  cases store with
  | plain path => cases h
  | merge store =>
      cases hopen : store.isOpen with
      | false =>
          simp only [add, Outcome.within, MergeStore.add_of_not_isOpen hopen] at h
          cases h
      | true =>
          obtain ⟨hstate, hresult⟩ := addAll_merge disk hopen (first :: rest)
          rw [hstate]
          exact ⟨hresult, rfl⟩
  | stream store =>
      simp only [add, Outcome.within] at h
      cases hopen : store.isOpen with
      | false =>
          rw [StreamStore.add_of_not_isOpen hopen] at h
          cases h
      | true =>
          rcases StreamStore.onFile_or_onDevice hopen with hfile | hdevice
          · cases hencodable : first.isEncodable with
            | false =>
                obtain ⟨fault, hrefused⟩ :=
                  StreamStore.add_of_not_isEncodable hopen disk hencodable
                rw [hrefused] at h
                cases h
            | true =>
                apply hfile.addAll disk
                rw [hencodable] at halike
                exact List.forall_mem_cons.mpr ⟨hencodable, halike⟩
          · obtain ⟨later, cause, hadd, -⟩ := hdevice.add disk first
            rw [hadd] at h
            cases h

/-- Of records that all have a UTF-8 form, or of which none has one, a store takes all or refuses
the first. -/
theorem addAll_all_or_none (disk : Disk) (store : Store) {records : List Record}
    {encodable : Bool} (halike : ∀ record ∈ records, record.isEncodable = encodable) :
    ((store.addAll disk records).result = .ok () ∧
        (store.addAll disk records).state.2.added = store.added + records.length) ∨
      ∃ first rest fault, records = first :: rest ∧
        (store.add disk first).result = .error fault ∧
        (store.addAll disk records).result = .error fault ∧
        (store.addAll disk records).state.1 = disk ∧
        (store.addAll disk records).state.2.added = store.added := by
  cases records with
  | nil => exact .inl ⟨rfl, rfl⟩
  | cons first rest =>
      cases hfirst : (store.add disk first).result with
      | error fault =>
          obtain ⟨hdisk, hadded⟩ := add_of_error hfirst
          refine .inr ⟨first, rest, fault, rfl, hfirst, ?_⟩
          rw [addAll, Outcome.andThen_of_error hfirst]
          exact ⟨rfl, hdisk, hadded⟩
      | ok =>
          obtain ⟨hencodable, hrest⟩ := List.forall_mem_cons.mp halike
          rw [← hencodable] at hrest
          exact .inl (addAll_of_add hrest hfirst)

/-- An open merging store refuses no records, an open streaming store only in writing them. -/
theorem addAll_of_isOpen {store : Store} (h : store.isOpen = true) (disk : Disk)
    (records : List Record) :
    (store.addAll disk records).result = .ok () ∨
      ∃ streaming, store = .stream streaming ∧
        ∃ cause, (store.addAll disk records).result = .error (.write streaming.path cause) := by
  cases store with
  | plain path => cases h
  | merge store => exact .inl (addAll_merge disk h records).2
  | stream store =>
      rcases StreamStore.addAll_of_isOpen h disk records with hdone | hrefused
      · exact .inl hdone
      · exact .inr ⟨store, rfl, hrefused⟩

end BuildRecorder.Store
