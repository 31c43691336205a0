import BuildRecorder.Proofs.Store.Calls
import BuildRecorder.Proofs.Store.Open

/-!
# Records that are kept

A record that was taken is in the file that is closed, whatever calls came before, in between and
after. Only another start can lose it. In a merging store it loads the old file once more, in place
of what has been taken; in a streaming store it empties the file, and the next record follows a
separator all the same. So the histories tell where a record was taken and whether a start
succeeded behind it.
-/

namespace BuildRecorder.Store

variable {disk : Disk} {path : Text} {calls : List Call}

/-! ## Histories -/

/-- Behind the calls a record is taken. -/
def Takes (disk : Disk) (store : Store) (calls : List Call) (record : Record) : Prop :=
  ((store.callEach disk calls).2.add (store.callEach disk calls).1 record).result = .ok ()

/-- A record is taken among the calls. -/
def Accepts (disk : Disk) (store : Store) (calls : List Call) (record : Record) : Prop :=
  ∃ before later, calls = before ++ .add record :: later ∧ Takes disk store before record

/-- A record is taken among the calls, and no start behind it loads a database without its file. -/
def Stays (disk : Disk) (store : Store) (calls : List Call) (record : Record) : Prop :=
  ∃ before later, calls = before ++ .add record :: later ∧ Takes disk store before record ∧
    (Opens (store.callEach disk (before ++ [.add record])).1
        (store.callEach disk (before ++ [.add record])).2 later →
      ∀ old, load disk store.path = .ok old → record.file ∈ old.map (·.file))

/-- A start among the calls succeeds behind a record that was taken. -/
def Restarts (disk : Disk) (store : Store) (calls : List Call) : Prop :=
  ∃ before later, calls = before ++ .start :: later ∧
    ((store.callEach disk before).2.start (store.callEach disk before).1).result = .ok () ∧
    ∃ record, Accepts disk store before record

theorem accepts_concat_iff {store : Store} {call : Call} {record : Record} :
    Accepts disk store (calls ++ [call]) record ↔
      Accepts disk store calls record ∨ (call = .add record ∧ Takes disk store calls record) :=
  exists_concat_eq_iff

theorem restarts_concat_iff {store : Store} {call : Call} :
    Restarts disk store (calls ++ [call]) ↔
      Restarts disk store calls ∨ (call = .start ∧
        ((store.callEach disk calls).2.start (store.callEach disk calls).1).result = .ok () ∧
        ∃ record, Accepts disk store calls record) :=
  exists_concat_eq_iff

theorem not_accepts_nil {store : Store} {record : Record} : ¬ Accepts disk store [] record := by
  rintro ⟨before, later, heq, -⟩
  simp at heq

theorem not_stays_nil {store : Store} {record : Record} : ¬ Stays disk store [] record := by
  rintro ⟨before, later, heq, -⟩
  simp at heq

theorem not_restarts_nil {store : Store} : ¬ Restarts disk store [] := by
  rintro ⟨before, later, heq, -⟩
  simp at heq

/-- One more call may be a start that loads. -/
theorem stays_of_stays_concat {store : Store} {call : Call} {record : Record}
    (h : Stays disk store (calls ++ [call]) record) :
    (Stays disk store calls record ∧
        (call = .start →
          ((store.callEach disk calls).2.start (store.callEach disk calls).1).result = .ok () →
          ∀ old, load disk store.path = .ok old → record.file ∈ old.map (·.file))) ∨
      call = .add record ∧ Takes disk store calls record := by
  rcases exists_concat_eq_iff.mp h with ⟨before, later, rfl, htakes, hstays⟩ | ⟨rfl, htakes, -⟩
  · rw [opens_concat_iff, ← callEach_append, List.append_assoc, List.singleton_append] at hstays
    refine .inl ⟨⟨before, later, rfl, htakes, fun hopens => hstays (.inl hopens)⟩, ?_⟩
    intro hcall hstart
    exact hstays (.inr ⟨hcall, hstart⟩)
  · exact .inr ⟨rfl, htakes⟩

/-! ## Merging stores -/

/-- A merging store that starts again holds what it held, or the records of the file instead. -/
theorem MergeStore.database_start (disk : Disk) (store : MergeStore) :
    (store.start disk).state.database = store.database ∨
      ((store.start disk).result = .ok () ∧ ∃ old, load disk store.path = .ok old ∧
        (store.start disk).state.database = .ofRecords old) := by
  cases hresult : (store.start disk).result with
  | error fault => exact .inl (by rw [state_start_of_error hresult])
  | ok =>
      obtain ⟨-, ⟨-, hstate⟩ | ⟨old, hload, hstate⟩ | ⟨fault, -, hstate⟩⟩ := start_cases hresult
      · exact .inl (by rw [hstate])
      · exact .inr ⟨rfl, old, hload, by rw [hstate]⟩
      · exact .inl (by rw [hstate])

/-- One call keeps a file that a merging store holds, unless it starts the store again on a database
without it, and adds the file of a record that it takes. -/
theorem file_mem_call {store later : MergeStore} {call : Call} {record : Record}
    (hlater : ((Store.merge store).call disk call).state.2 = .merge later)
    (h : (record.file ∈ store.database.files ∧
        (call = .start → ((Store.merge store).start disk).result = .ok () →
          ∀ old, load disk store.path = .ok old → record.file ∈ old.map (·.file))) ∨
      call = .add record ∧ ((Store.merge store).add disk record).result = .ok ()) :
    record.file ∈ later.database.files := by
  cases call with
  | start =>
      obtain rfl : (store.start disk).state = later := Store.merge.inj hlater
      obtain ⟨hheld, hold⟩ := h.resolve_right (by simp)
      rcases MergeStore.database_start disk store with hsame | ⟨hstart, old, hload, hloaded⟩
      · rw [hsame]
        exact hheld
      · rw [hloaded, Database.mem_files_ofRecords_iff]
        exact hold rfl hstart old hload
  | add other =>
      obtain rfl : (store.add other).state = later := Store.merge.inj hlater
      cases hopen : store.isOpen with
      | true =>
          rw [(MergeStore.add_of_isOpen hopen other).1]
          apply (Database.mem_files_upsert_iff other record.file).mpr
          rcases h with ⟨hheld, -⟩ | ⟨hcall, -⟩
          · exact .inl hheld
          · cases hcall
            exact .inr rfl
      | false =>
          have hrefused := MergeStore.add_of_not_isOpen hopen
          rcases h with ⟨hheld, -⟩ | ⟨-, htaken⟩
          · rw [hrefused]
            exact hheld
          · simp only [Store.add, Outcome.within, hrefused] at htaken
            cases htaken
  | finish =>
      obtain rfl : (store.finish disk).state.2 = later := Store.merge.inj hlater
      obtain ⟨hheld, -⟩ := h.resolve_right (by simp)
      rw [(MergeStore.phase_finish disk store).1]
      exact hheld

/-- A merging store that is not closed holds a record for every file of which one stays. -/
theorem file_mem_of_stays (disk : Disk) (path : Text) (calls : List Call) :
    ∃ kept : MergeStore, ((create .merge path).callEach disk calls).2 = .merge kept ∧
      kept.path = path ∧
      (kept.finished = false → ∀ record, Stays disk (create .merge path) calls record →
        record.file ∈ kept.database.files) := by
  induction calls using List.reverseRecOn with
  | nil => exact ⟨{ path }, rfl, rfl, fun _ record hstays => absurd hstays not_stays_nil⟩
  | append_singleton calls call ih =>
      obtain ⟨kept, hkept, hpath, hfiles⟩ := ih
      obtain ⟨same, hsame, -, -, -, hdisk⟩ := callEach_merge disk path calls
      obtain rfl : kept = same := Store.merge.inj (hkept.symm.trans hsame)
      obtain ⟨later, hlater, hpath', -, hfinished, -⟩ :=
        call_merge ((create .merge path).callEach disk calls).1 kept call
      refine ⟨later, by rw [callEach_concat, hkept, hlater], hpath'.trans hpath, ?_⟩
      intro hunfinished record hstays
      have hbefore : kept.finished = false := by
        rw [Bool.eq_false_iff] at hunfinished ⊢
        exact fun h => hunfinished (hfinished.mpr (.inl h))
      apply file_mem_call hlater
      -- A start before the end still finds the file of the beginning.
      rw [hdisk hbefore, hpath]
      rcases stays_of_stays_concat hstays with ⟨hstays, hold⟩ | ⟨hcall, htakes⟩
      · rw [hkept, hdisk hbefore] at hold
        exact .inl ⟨hfiles hbefore record hstays, hold⟩
      · rw [Takes, hkept, hdisk hbefore] at htakes
        exact .inr ⟨hcall, htakes⟩

/-- What an open merging store closes with is read back as its database. -/
theorem MergeStore.load_finish {now : Disk} {store : MergeStore} (hopen : store.isOpen = true)
    (hdone : (store.finish now).result = .ok ()) :
    load (store.finish now).state.1 store.path = .ok store.database.records := by
  rcases finish_cases now hopen with ⟨bytes, hencode, htakes, hstate, -⟩ | ⟨-, -, fault, hfault⟩
  · rw [hstate]
    exact load_setContent htakes (Database.readBytes_document hencode)
  · rw [hfault] at hdone
    cases hdone

/-! ## Streaming stores -/

namespace StreamStore

/-- What a streaming store and its disk can be once records have been taken, if the store is not
started again behind the first of them. -/
inductive Phase (disk : Disk) (path : Text) : List Record → Disk → StreamStore → Prop
  | fresh : Phase disk path [] disk { path }
  | opened (htakes : disk.TakesFile path) (content : Bytes)
      (hlength : content.length ≤ (ascii opening).length) :
      Phase disk path [] (disk.setContent path content) (storeWith disk path [])
  | filled (htakes : disk.TakesFile path) (taken : List Record) (hfilled : taken ≠ [])
      (hencodable : ∀ record ∈ taken, record.isEncodable = true) :
      Phase disk path taken (diskWith disk path taken) (storeWith disk path taken)
  | device (hrefuses : ¬ disk.TakesFile path) (store : StreamStore) (hpath : store.path = path)
      (hdevice : store.OnDevice) : Phase disk path [] disk store
  | closed (taken : List Record) (now : Disk) (store : StreamStore)
      (hfinished : store.finished = true) : Phase disk path taken now store

variable {taken : List Record} {now : Disk} {store : StreamStore}

/-- What waits at the beginning of a file is written over whatever an output that was given up has
left there. -/
theorem flush_opened (htakes : disk.TakesFile path) {content : Bytes}
    (hlength : content.length ≤ (ascii opening).length) (t : Text) :
    Output.flush (disk.setContent path content)
        ⟨.file (disk.serialAt path) 0, ascii opening⟩ (ascii t) =
      (disk.setContent path (ascii (opening ++ t)),
        ⟨.file (disk.serialAt path) (ascii (opening ++ t)).length, []⟩, .ok ()) := by
  have hopening : 0 < (ascii opening).length := by decide
  have hover : content.length ≤ (ascii (opening ++ t)).length := by
    rw [ascii_append, List.length_append]
    exact Nat.le_add_right_of_le hlength
  have hbytes : ascii (opening ++ t) ≠ [] := by
    rw [ascii_append]
    exact List.append_ne_nil_of_left_ne_nil (List.ne_nil_of_length_pos hopening) _
  have hwrite := Disk.write_setContent_of_ne_nil htakes content 0 hbytes
  rw [Disk.overwrite_zero hover, Nat.zero_add, ascii_append] at hwrite
  simp only [Output.flush, ascii_append, hwrite]

/-- So nothing tells such a disk from one on which the file is empty. -/
theorem flush_opened_eq (htakes : disk.TakesFile path) {content : Bytes}
    (hlength : content.length ≤ (ascii opening).length) (t : Text) :
    Output.flush (disk.setContent path content)
        ⟨.file (disk.serialAt path) 0, ascii opening⟩ (ascii t) =
      Output.flush (diskWith disk path [])
        ⟨.file (disk.serialAt path) 0, ascii opening⟩ (ascii t) :=
  (flush_opened htakes hlength t).trans (flush_opened htakes (Nat.zero_le _) t).symm

theorem output_storeWith_nil (disk : Disk) (path : Text) :
    (storeWith disk path []).output =
      some ⟨.file (disk.serialAt path) 0, ascii opening⟩ := rfl

theorem finished_storeWith (disk : Disk) (path : Text) (taken : List Record) :
    (storeWith disk path taken).finished = false := rfl

theorem add_opened (htakes : disk.TakesFile path) {content : Bytes}
    (hlength : content.length ≤ (ascii opening).length) {record : Record}
    (h : record.isEncodable = true) :
    (storeWith disk path []).add (disk.setContent path content) record =
      (storeWith disk path []).add (diskWith disk path []) record := by
  have hencode : Utf8.encode ((storeWith disk path []).chunk record) =
      .ok (ascii ((storeWith disk path []).chunk record)) :=
    Utf8.encode_eq_ok_iff.mpr ⟨(isEncodable_chunk _ record).trans h, rfl⟩
  have hflush := flush_opened_eq htakes hlength ((storeWith disk path []).chunk record)
  simp only [add, output_storeWith_nil, finished_storeWith, hencode, hflush]

theorem finish_opened (htakes : disk.TakesFile path) {content : Bytes}
    (hlength : content.length ≤ (ascii opening).length) :
    (storeWith disk path []).finish (disk.setContent path content) =
      (storeWith disk path []).finish (diskWith disk path []) := by
  have hflush := flush_opened_eq htakes hlength (storeWith disk path []).closing
  simp only [finish, output_storeWith_nil, finished_storeWith, hflush]

/-- A start that succeeds again, before a record is taken, leaves at most what opens the array. -/
theorem start_opened (htakes : disk.TakesFile path) {content : Bytes}
    (hstart : ((storeWith disk path []).start (disk.setContent path content)).result = .ok ()) :
    ((storeWith disk path []).start (disk.setContent path content)).state =
      (disk.setContent path (ascii opening), storeWith disk path []) := by
  obtain ⟨opened, handle, hopened, hstate⟩ := exists_openToWrite_of_start hstart
  have hemptied := Disk.openToWrite_eq_ok_iff.mpr ⟨htakes.setContent content, rfl, rfl, rfl⟩
  rw [Disk.setContent_setContent htakes, Disk.serialAt_setContent htakes.leads] at hemptied
  rw [path_storeWith, hemptied] at hopened
  cases hopened
  have hempty : ([] : Bytes).length ≤ (ascii opening).length := Nat.zero_le _
  have hflush : Output.flush (disk.setContent path [])
      ⟨.file (disk.serialAt path) 0, ascii opening⟩ [] = _ := flush_opened htakes hempty []
  rw [hstate]
  simp only [output_storeWith_nil, hflush, List.append_nil]
  rfl

theorem finished_finish (h : store.isOpen = true) (disk : Disk) :
    (store.finish disk).state.2.finished = true := by
  obtain ⟨output, houtput, hunfinished⟩ := isOpen_eq_true_iff.mp h
  simp only [finish, houtput, hunfinished]
  split <;> rfl

theorem isOpen_of_finished (h : store.finished = true) : store.isOpen = false := by
  simp [isOpen, h]

/-- A device is opened again as it was opened first. -/
theorem OnDevice.start (h : store.OnDevice) (hrefuses : ¬ disk.TakesFile store.path)
    (hstart : (store.start disk).result = .ok ()) :
    (store.start disk).state =
      (disk, { store with output := some ⟨.device, ascii opening⟩ }) := by
  obtain ⟨opened, handle, hopened, hstate⟩ := exists_openToWrite_of_start hstart
  cases handle with
  | file serial offset => exact absurd (Disk.openToWrite_eq_ok_iff.mp hopened).1 hrefuses
  | device =>
      obtain ⟨-, rfl⟩ := Disk.lookup?_of_openToWrite_device hopened
      obtain ⟨pending, houtput⟩ := h.output
      obtain ⟨later, result, hflush, -⟩ := flush_device opened pending []
      rw [hstate]
      simp only [houtput, hflush]

theorem Phase.start (h : Phase disk path [] now store) :
    Phase disk path [] (store.start now).state.1 (store.start now).state.2 := by
  cases hresult : (store.start now).result with
  | error fault =>
      rw [state_start_of_error hresult]
      exact h
  | ok =>
      cases h with
      | fresh =>
          rcases start_cases hresult with ⟨htakes, hstate⟩ | ⟨hlookup, hstate⟩
          · rw [hstate]
            exact .opened htakes [] (Nat.zero_le _)
          · rw [hstate]
            exact .device (Disk.not_takesFile_of_lookup? hlookup) _ rfl ⟨⟨_, rfl⟩, rfl⟩
      | opened htakes content hlength =>
          rw [start_opened htakes hresult]
          exact .opened htakes (ascii opening) (Nat.le_refl _)
      | filled htakes taken hfilled hencodable => exact absurd rfl hfilled
      | device hrefuses store hpath hdevice =>
          subst hpath
          rw [hdevice.start hrefuses hresult]
          exact .device hrefuses _ rfl ⟨⟨_, rfl⟩, hdevice.isOpen⟩
      | closed taken now store hfinished =>
          obtain ⟨opened, handle, -, hstate⟩ := exists_openToWrite_of_start hresult
          rw [hstate]
          exact .closed _ _ _ hfinished

/-- A record is taken, as the last one, or refused. -/
theorem Phase.add (h : Phase disk path taken now store) (record : Record) :
    ((store.add now record).result = .ok () ∧
        Phase disk path (taken ++ [record]) (store.add now record).state.1
          (store.add now record).state.2) ∨
      ((store.add now record).result ≠ .ok () ∧
        Phase disk path taken (store.add now record).state.1 (store.add now record).state.2) := by
  cases h with
  | fresh => exact .inr ⟨by simp [StreamStore.add], .fresh⟩
  | opened htakes content hlength =>
      cases hencodable : record.isEncodable with
      | true =>
          rw [add_opened htakes hlength hencodable, add_of_isEncodable htakes [] hencodable]
          exact .inl ⟨rfl, .filled htakes [record] (by simp) (by simpa using hencodable)⟩
      | false =>
          obtain ⟨fault, hrefused⟩ := add_of_not_isEncodable
            (isOpen_storeWith disk path []) (disk.setContent path content) hencodable
          rw [hrefused]
          exact .inr ⟨by simp, .opened htakes content hlength⟩
  | filled htakes taken hfilled hencodable =>
      cases hrecord : record.isEncodable with
      | true =>
          rw [add_of_isEncodable htakes taken hrecord]
          refine .inl ⟨rfl, .filled htakes _ (by simp) ?_⟩
          exact List.forall_mem_append.mpr ⟨hencodable, by simpa using hrecord⟩
      | false =>
          obtain ⟨fault, hrefused⟩ := add_of_not_isEncodable
            (isOpen_storeWith disk path taken) (diskWith disk path taken) hrecord
          rw [hrefused]
          exact .inr ⟨by simp, .filled htakes taken hfilled hencodable⟩
  | device hrefuses store hpath hdevice =>
      obtain ⟨later, cause, hadd, hlater, hlaterPath, -⟩ := hdevice.add disk record
      rw [hadd]
      exact .inr ⟨by simp, .device hrefuses later (hlaterPath.trans hpath) hlater⟩
  | closed taken now store hfinished =>
      rw [add_of_not_isOpen (isOpen_of_finished hfinished)]
      exact .inr ⟨by simp, .closed taken now store hfinished⟩

theorem Phase.finish (h : Phase disk path taken now store) :
    Phase disk path taken (store.finish now).state.1 (store.finish now).state.2 := by
  cases hopen : store.isOpen with
  | true => exact .closed _ _ _ (finished_finish hopen now)
  | false =>
      rw [finish_of_not_isOpen hopen]
      exact h

/-- What a streaming store closes with is read back as the records that were taken. -/
theorem Phase.load_finish (h : Phase disk path taken now store) (hopen : store.isOpen = true)
    (hdone : (store.finish now).result = .ok ()) :
    load (store.finish now).state.1 path = .ok taken := by
  cases h with
  | fresh => cases hopen
  | opened htakes content hlength =>
      rw [finish_opened htakes hlength]
      exact (finish_storeWith htakes (by simp)).2
  | filled htakes taken hfilled hencodable => exact (finish_storeWith htakes hencodable).2
  | device hrefuses store hpath hdevice =>
      obtain ⟨fault, hfault⟩ := hdevice.finish disk
      rw [hfault] at hdone
      cases hdone
  | closed taken now store hfinished =>
      rw [isOpen_of_finished hfinished] at hopen
      cases hopen

end StreamStore

/-- One call of a streaming store leads from phase to phase. It takes a record, or none. -/
theorem phase_call {now : Disk} {store : StreamStore} {taken : List Record}
    (h : StreamStore.Phase disk path taken now store) (call : Call)
    (honce : call = .start → (store.start now).result = .ok () → taken = []) :
    ∃ more later, ((Store.stream store).call now call).state.2 = .stream later ∧
      StreamStore.Phase disk path (taken ++ more) ((Store.stream store).call now call).state.1
        later ∧
      ∀ record, record ∈ more ↔
        call = .add record ∧ ((Store.stream store).add now record).result = .ok () := by
  cases call with
  | start =>
      refine ⟨[], (store.start now).state.2, rfl, ?_, by simp⟩
      rw [List.append_nil]
      cases hresult : (store.start now).result with
      | error fault =>
          have hstate := StreamStore.state_start_of_error hresult
          simp only [call, start, Outcome.within, hstate]
          exact h
      | ok =>
          obtain rfl := honce rfl hresult
          exact h.start
  | add record =>
      rcases h.add record with ⟨htaken, hlater⟩ | ⟨hrefused, hlater⟩
      · refine ⟨[record], _, rfl, hlater, ?_⟩
        intro other
        constructor
        · intro hother
          obtain rfl := List.mem_singleton.mp hother
          exact ⟨rfl, htaken⟩
        · rintro ⟨hcall, -⟩
          cases hcall
          exact List.mem_singleton.mpr rfl
      · refine ⟨[], _, rfl, by rwa [List.append_nil], ?_⟩
        intro other
        constructor
        · intro hother
          cases hother
        · rintro ⟨hcall, htaken⟩
          cases hcall
          exact absurd htaken hrefused
  | finish =>
      refine ⟨[], (store.finish now).state.2, rfl, ?_, by simp⟩
      rw [List.append_nil]
      exact h.finish

/-- If no start succeeds behind a record that was taken, a streaming store is in the phase of the
records that were. -/
theorem phase_callEach (disk : Disk) (path : Text) {calls : List Call}
    (h : ¬ Restarts disk (create .stream path) calls) :
    ∃ taken store, ((create .stream path).callEach disk calls).2 = .stream store ∧
      StreamStore.Phase disk path taken ((create .stream path).callEach disk calls).1 store ∧
      ∀ record, Accepts disk (create .stream path) calls record ↔ record ∈ taken := by
  induction calls using List.reverseRecOn with
  | nil => exact ⟨[], { path }, rfl, .fresh, by simp [not_accepts_nil]⟩
  | append_singleton calls call ih =>
      obtain ⟨hbefore, hcall⟩ := not_or.mp (mt restarts_concat_iff.mpr h)
      obtain ⟨taken, store, hstore, hphase, htaken⟩ := ih hbefore
      rw [hstore] at hcall
      have honce : call = .start →
          (store.start ((create .stream path).callEach disk calls).1).result = .ok () →
          taken = [] := by
        intro hstart hresult
        apply List.eq_nil_iff_forall_not_mem.mpr
        intro record hrecord
        exact hcall ⟨hstart, hresult, record, (htaken record).mpr hrecord⟩
      obtain ⟨more, later, hlater, hphase', hmore⟩ := phase_call hphase call honce
      rw [callEach_concat, hstore]
      refine ⟨taken ++ more, later, hlater, hphase', ?_⟩
      intro record
      rw [accepts_concat_iff, Takes, hstore, List.mem_append, htaken, hmore]

/-! ## Every order of calls -/

/-- Closes a store behind some calls. -/
def finishAfter (disk : Disk) (store : Store) (calls : List Call) :
    Outcome (Disk × Store) Fault Unit :=
  (store.callEach disk calls).2.finish (store.callEach disk calls).1

/-- Whatever was called before, in any order and any number of times: if an open store is closed,
its file is read back, and for every record that was taken there is one for the same file, unless
the store was started again behind it. In a merging store even then, if the start finds no database
to load, or one that holds the file; a streaming store must not have been started again behind any
record that was taken. -/
theorem load_finishAfter {mode : Mode} {disk : Disk} {path : Text} {calls : List Call}
    (hopen : ((create mode path).callEach disk calls).2.isOpen = true)
    (hdone : (finishAfter disk (create mode path) calls).result = .ok ())
    (honce : mode = .stream → ¬ Restarts disk (create mode path) calls) :
    ∃ records, load (finishAfter disk (create mode path) calls).state.1 path = .ok records ∧
      ∀ record, Accepts disk (create mode path) calls record →
        (mode = .merge → Stays disk (create mode path) calls record) →
          ∃ other ∈ records, other.file = record.file := by
  unfold finishAfter at hdone ⊢
  cases mode with
  | merge =>
      obtain ⟨kept, hkept, hpath, hfiles⟩ := file_mem_of_stays disk path calls
      rw [hkept] at hopen hdone ⊢
      refine ⟨kept.database.records, ?_, ?_⟩
      · have hload := MergeStore.load_finish hopen hdone
        rwa [hpath] at hload
      · intro record _ hstays
        have hunfinished := (MergeStore.isOpen_eq_true_iff.mp hopen).2
        exact List.mem_map.mp (hfiles hunfinished record (hstays rfl))
  | stream =>
      obtain ⟨taken, store, hstore, hphase, htaken⟩ := phase_callEach disk path (honce rfl)
      rw [hstore] at hopen hdone ⊢
      refine ⟨taken, hphase.load_finish hopen hdone, ?_⟩
      intro record haccepts _
      exact ⟨record, (htaken record).mp haccepts, rfl⟩

/-- A store that is started twice in front of a record. -/
def hesitantCalls : List Call := [.start, .start, .add changed]

/-- A store that is started again behind a record. -/
def restartCalls : List Call := [.start, .add changed, .start]

theorem load_finishAfter_restartCalls :
    (∃ records, load (finishAfter repeatedDisk (create .merge "/db") restartCalls).state.1 "/db" =
        .ok records ∧ ∃ other ∈ records, other.file = changed.file) ∧
      ∃ records, load (finishAfter {} (create .stream "/db") hesitantCalls).state.1 "/db" =
        .ok records ∧ ∃ other ∈ records, other.file = changed.file := by
  constructor
  · have haccepts : Accepts repeatedDisk (create .merge "/db") restartCalls changed :=
      ⟨[.start], [.start], rfl, eq_ok_of_toOption (by decide +kernel)⟩
    have hstays : Stays repeatedDisk (create .merge "/db") restartCalls changed := by
      refine ⟨[.start], [.start], rfl, eq_ok_of_toOption (by decide +kernel), ?_⟩
      intro _ old hload
      have hfound : load repeatedDisk "/db" = .ok repeated := eq_ok_of_toOption (by decide +kernel)
      obtain rfl : repeated = old := Except.ok.inj (hfound.symm.trans hload)
      decide
    have hopen : ((create .merge "/db").callEach repeatedDisk restartCalls).2.isOpen = true := by
      decide +kernel
    have hdone : (finishAfter repeatedDisk (create .merge "/db") restartCalls).result =
        .ok () := eq_ok_of_toOption (by decide +kernel)
    obtain ⟨records, hload, hkept⟩ := load_finishAfter hopen hdone (by simp)
    exact ⟨records, hload, hkept changed haccepts fun _ => hstays⟩
  · have hcalls : hesitantCalls = [] ++ [.start] ++ [.start] ++ [.add changed] := rfl
    have honce : ¬ Restarts {} (create .stream "/db") hesitantCalls := by
      rw [hcalls]
      simp only [restarts_concat_iff, not_restarts_nil, accepts_concat_iff, not_accepts_nil,
        reduceCtorEq, false_and, and_false, exists_false, or_self, not_false_eq_true]
    have haccepts : Accepts {} (create .stream "/db") hesitantCalls changed :=
      ⟨[.start, .start], [], rfl, eq_ok_of_toOption (by decide +kernel)⟩
    have hopen : ((create .stream "/db").callEach {} hesitantCalls).2.isOpen = true := by
      decide +kernel
    have hdone : (finishAfter {} (create .stream "/db") hesitantCalls).result = .ok () :=
      eq_ok_of_toOption (by decide +kernel)
    obtain ⟨records, hload, hkept⟩ := load_finishAfter hopen hdone fun _ => honce
    exact ⟨records, hload, hkept changed haccepts (by simp)⟩

/-- A disk with an empty database. -/
def emptyListingDisk : Disk :=
  { tree := Tree.addFile {} ["db"] (("[]\n" : Text).flatMap Utf8.encodeChar) }

/-- A record that was taken is lost if the store is started again behind it: a merging store loads
the old file instead, and a streaming store makes a file that is no database. -/
theorem not_kept_restartCalls :
    let merging := create .merge "/db"
    let streaming := create .stream "/db"
    let calls := restartCalls ++ [.add changed]
    (Accepts emptyListingDisk merging restartCalls changed ∧
        (merging.callEach emptyListingDisk restartCalls).2.isOpen = true ∧
        (finishAfter emptyListingDisk merging restartCalls).result = .ok () ∧
        load (finishAfter emptyListingDisk merging restartCalls).state.1 "/db" = .ok []) ∧
      Accepts {} streaming calls changed ∧
        (streaming.callEach {} calls).2.isOpen = true ∧
        (finishAfter {} streaming calls).result = .ok () ∧
        ∀ records, load (finishAfter {} streaming calls).state.1 "/db" ≠ .ok records := by
  intro merging streaming calls
  have hunread : (load (finishAfter {} streaming calls).state.1 "/db").toOption = none := by
    decide +kernel
  refine ⟨⟨⟨[.start], [.start], rfl, ?_⟩, by decide +kernel, ?_, ?_⟩,
    ⟨[.start], [.start, .add changed], rfl, ?_⟩, by decide +kernel, ?_, ?_⟩
  · exact eq_ok_of_toOption (by decide +kernel)
  · exact eq_ok_of_toOption (by decide +kernel)
  · exact eq_ok_of_toOption (by decide +kernel)
  · exact eq_ok_of_toOption (by decide +kernel)
  · exact eq_ok_of_toOption (by decide +kernel)
  · intro records hload
    rw [hload] at hunread
    cases hunread

end BuildRecorder.Store
