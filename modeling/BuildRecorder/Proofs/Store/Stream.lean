import BuildRecorder.Proofs.Database.Encodable
import BuildRecorder.Proofs.Store.Run

/-!
# Runs of a streaming store

Between its start and its end a streaming store is determined by the records it has taken: they say
what is on the disk, what still waits, and what is counted. A record is taken or refused as a whole,
so every sequence of calls leads from one such state to another.
-/

namespace BuildRecorder.Store.StreamStore

variable {disk : Disk} {path : Text}

/-- Adds records one after the other, and goes on after those that are refused. -/
def addEach (disk : Disk) (store : StreamStore) : List Record → Disk × StreamStore
  | [] => (disk, store)
  | record :: records =>
    let (disk, store) := (store.add disk record).state
    store.addEach disk records

/-! ## States between the calls -/

/-- What is on the disk once records have been taken. -/
def streamed (taken : List Record) : Text :=
  if taken = [] then [] else opening ++ Text.join separator (taken.map Record.compact)

/-- What waits for the next write: what opens the array, until a record is taken. -/
def waiting (taken : List Record) : Text := if taken = [] then opening else []

/-- The disk that the store was started on, when it has taken the given records. -/
def diskWith (disk : Disk) (path : Text) (taken : List Record) : Disk :=
  disk.setContent path (ascii (streamed taken))

/-- The open store at a path, when it has taken the given records. -/
def storeWith (disk : Disk) (path : Text) (taken : List Record) : StreamStore :=
  { path
    output := some ⟨.file (disk.serialAt path) (ascii (streamed taken)).length,
      ascii (waiting taken)⟩
    added := taken.length }

/-- Whether a store takes records. -/
def isOpen (store : StreamStore) : Bool := store.output.isSome && !store.finished

theorem isOpen_eq_true_iff {store : StreamStore} :
    store.isOpen = true ↔ ∃ output, store.output = some output ∧ store.finished = false := by
  simp [isOpen, Option.isSome_iff_exists]

theorem isOpen_storeWith (disk : Disk) (path : Text) (taken : List Record) :
    (storeWith disk path taken).isOpen = true := rfl

@[simp] theorem path_storeWith (disk : Disk) (path : Text) (taken : List Record) :
    (storeWith disk path taken).path = path := rfl

theorem ascii_append (t u : Text) : ascii (t ++ u) = ascii t ++ ascii u := List.flatMap_append

theorem streamed_concat (disk : Disk) (path : Text) (taken : List Record) (record : Record) :
    streamed (taken ++ [record]) =
      streamed taken ++ (waiting taken ++ (storeWith disk path taken).chunk record) := by
  by_cases hempty : taken = []
  · simp [streamed, waiting, chunk, storeWith, Text.join, hempty]
  · have hne : taken.map Record.compact ≠ [] := by simpa using hempty
    simp [streamed, waiting, chunk, storeWith, hempty, Text.join_concat separator hne]

theorem isEncodable_chunk (store : StreamStore) (record : Record) :
    (store.chunk record).isEncodable = record.isEncodable := by
  have hseparator : separator.isEncodable = true := by decide
  unfold chunk
  split <;> simp [hseparator, Record.isEncodable_compact]

theorem chunk_ne_nil (store : StreamStore) (record : Record) : store.chunk record ≠ [] := by
  unfold chunk
  split <;> simp [Record.compact, Text.ofString]

theorem isEncodable_streamed {taken : List Record} (h : ∀ record ∈ taken, record.isEncodable) :
    (streamed taken).isEncodable = true := by
  have hopening : opening.isEncodable = true := by decide
  have hjoin := Text.isEncodable_join separator (by decide) Record.compact taken
  simp only [Record.isEncodable_compact] at hjoin
  unfold streamed
  split
  · rfl
  · rw [Text.isEncodable_append, hopening, hjoin]
    simpa using h

/-- The whole file once the array has been closed. -/
def closed (taken : List Record) : Text :=
  if taken = [] then "[" ++ ("\n" : Text) ++ "]\n" else Database.listing Record.compact taken

theorem streamed_closing (disk : Disk) (path : Text) (taken : List Record) :
    streamed taken ++ (waiting taken ++ (storeWith disk path taken).closing) = closed taken := by
  by_cases hempty : taken = []
  · subst hempty
    rfl
  · simp [streamed, waiting, closing, closed, storeWith, hempty, Database.listing, opening,
      separator]

theorem readBytes_closed {taken : List Record} {bytes : Bytes}
    (hbytes : Utf8.encode (closed taken) = .ok bytes) : Database.readBytes bytes = .ok taken := by
  by_cases hempty : taken = []
  · subst hempty
    exact Database.readBytes_of_leads (Database.leads_emptyListing rfl) rfl (by decide) hbytes
  · rw [closed, if_neg hempty] at hbytes
    exact Database.readBytes_listing Record.readsAs_compact Record.carriageReturn_notMem_compact
      hempty hbytes

/-! ## The calls -/

theorem add_of_flush {store : StreamStore} {output output' : Output} {disk' : Disk} {bytes : Bytes}
    {record : Record} (houtput : store.output = some output) (hopen : store.finished = false)
    (hencode : Utf8.encode (store.chunk record) = .ok bytes)
    (hflush : output.flush disk bytes = (disk', output', .ok ())) :
    store.add disk record =
      { state := (disk', { store with output := some output', added := store.added + 1 })
        result := .ok () } := by
  simp only [add, houtput, hopen, hencode, hflush]

theorem add_of_encode_error {store : StreamStore} {output : Output} {fault : Utf8.EncodeFault}
    {record : Record} (houtput : store.output = some output) (hopen : store.finished = false)
    (hencode : Utf8.encode (store.chunk record) = .error fault) :
    store.add disk record =
      { state := (disk, store), result := .error (.write store.path (.unencodable fault)) } := by
  simp only [add, houtput, hopen, hencode]

theorem finish_of_flush {store : StreamStore} {output output' : Output} {disk' : Disk}
    (houtput : store.output = some output) (hopen : store.finished = false)
    (hflush : output.flush disk (ascii store.closing) = (disk', output', .ok ())) :
    (store.finish disk).state = (disk', { store with output := none, finished := true }) ∧
      (store.finish disk).result = .ok () := by
  simp only [finish, houtput, hopen, hflush, and_self]

theorem flush_storeWith (htakes : disk.TakesFile path) (taken : List Record) (t : Text) :
    Output.flush (diskWith disk path taken)
        ⟨.file (disk.serialAt path) (ascii (streamed taken)).length, ascii (waiting taken)⟩
        (ascii t) =
      (disk.setContent path (ascii (streamed taken ++ (waiting taken ++ t))),
        ⟨.file (disk.serialAt path) (ascii (streamed taken ++ (waiting taken ++ t))).length, []⟩,
        .ok ()) := by
  have hwrite := Disk.write_setContent htakes (ascii (streamed taken)) (ascii (waiting taken ++ t))
  rw [← ascii_append, ascii_append (waiting taken)] at hwrite
  simp only [Output.flush, diskWith, hwrite]

/-- A store that starts has opened its path, and an output that was open is given up. -/
theorem exists_openToWrite_of_start {store : StreamStore}
    (hstart : (store.start disk).result = .ok ()) :
    ∃ opened handle, disk.openToWrite store.path = .ok (opened, handle) ∧
      (store.start disk).state =
        (match store.output with
          | none => opened
          | some old => (old.flush opened []).1,
          { store with output := some ⟨handle, ascii opening⟩ }) := by
  unfold start at hstart ⊢
  cases hcheck : checkOutput disk store.path with
  | error fault => simp [hcheck] at hstart
  | ok =>
      simp only [hcheck] at hstart ⊢
      cases hopen : disk.openToWrite store.path with
      | error fault => cases fault <;> simp [hopen] at hstart
      | ok opened => exact ⟨opened.1, opened.2, rfl, rfl⟩

theorem state_start_of_error {store : StreamStore} {fault : Fault}
    (h : (store.start disk).result = .error fault) :
    (store.start disk).state = (disk, store) := by
  unfold start at h ⊢
  cases hcheck : checkOutput disk store.path with
  | error refused => rfl
  | ok =>
      simp only [hcheck] at h ⊢
      cases hopen : disk.openToWrite store.path with
      | error refused => cases refused <;> rfl
      | ok opened => simp [hopen] at h

/-- A store that starts has emptied a file, or it stands on a device. -/
theorem start_cases (hstart : (StreamStore.start disk { path }).result = .ok ()) :
    (disk.TakesFile path ∧
        (StreamStore.start disk { path }).state =
          (diskWith disk path [], storeWith disk path [])) ∨
      (disk.lookup? path = some .fullDevice ∧
        (StreamStore.start disk { path }).state =
          (disk, { path, output := some ⟨.device, ascii opening⟩ })) := by
  obtain ⟨opened, handle, hopen, hstate⟩ := exists_openToWrite_of_start hstart
  rw [hstate]
  cases handle with
  | device =>
      obtain ⟨hdevice, rfl⟩ := Disk.lookup?_of_openToWrite_device hopen
      exact .inr ⟨hdevice, rfl⟩
  | file serial offset =>
      obtain ⟨htakes, rfl, rfl, rfl⟩ := Disk.openToWrite_eq_ok_iff.mp hopen
      exact .inl ⟨htakes, rfl⟩

theorem state_start (hstart : (StreamStore.start disk { path }).result = .ok ())
    (hdevice : disk.lookup? path ≠ some .fullDevice) :
    disk.TakesFile path ∧
      (StreamStore.start disk { path }).state =
        (diskWith disk path [], storeWith disk path []) := by
  rcases start_cases hstart with hfile | ⟨hlookup, -⟩
  · exact hfile
  · exact absurd hlookup hdevice

/-- A record that has a UTF-8 form is taken. -/
theorem add_of_isEncodable (htakes : disk.TakesFile path) (taken : List Record) {record : Record}
    (h : record.isEncodable = true) :
    (storeWith disk path taken).add (diskWith disk path taken) record =
      { state := (diskWith disk path (taken ++ [record]), storeWith disk path (taken ++ [record]))
        result := .ok () } := by
  have hencode : Utf8.encode ((storeWith disk path taken).chunk record) =
      .ok (ascii ((storeWith disk path taken).chunk record)) :=
    Utf8.encode_eq_ok_iff.mpr ⟨(isEncodable_chunk _ record).trans h, rfl⟩
  have hflush := flush_storeWith htakes taken ((storeWith disk path taken).chunk record)
  -- What waited and the chunk are just what one more record adds to the text.
  rw [← streamed_concat] at hflush
  rw [add_of_flush rfl rfl hencode hflush]
  simp [storeWith, diskWith, waiting, ascii]

/-- A record that has none is refused and changes nothing. -/
theorem add_of_not_isEncodable {store : StreamStore} (hopen : store.isOpen = true) (disk : Disk)
    {record : Record} (h : record.isEncodable = false) :
    ∃ fault, store.add disk record =
      { state := (disk, store), result := .error (.write store.path (.unencodable fault)) } := by
  obtain ⟨output, houtput, hunfinished⟩ := isOpen_eq_true_iff.mp hopen
  obtain ⟨fault, hfault⟩ := Utf8.exists_encode_eq_error
    ((isEncodable_chunk store record).trans h)
  exact ⟨fault, add_of_encode_error houtput hunfinished hfault⟩

theorem addEach_storeWith (htakes : disk.TakesFile path) (taken records : List Record) :
    (storeWith disk path taken).addEach (diskWith disk path taken) records =
      (diskWith disk path (taken ++ records.filter Record.isEncodable),
        storeWith disk path (taken ++ records.filter Record.isEncodable)) := by
  induction records generalizing taken with
  | nil => simp [addEach]
  | cons record records ih =>
      cases h : record.isEncodable with
      | true =>
          rw [addEach, add_of_isEncodable htakes taken h]
          simp only [ih, List.filter_cons_of_pos h, List.append_assoc, List.singleton_append]
      | false =>
          obtain ⟨fault, hadd⟩ :=
            add_of_not_isEncodable (isOpen_storeWith disk path taken) (diskWith disk path taken) h
          rw [addEach, hadd]
          simp only [ih, List.filter_cons, h, Bool.false_eq_true, if_false]

/-- A path that a file can be written at is opened. -/
theorem start_of_takesFile (hcheck : checkOutput disk path = .ok ()) (htakes : disk.TakesFile path) :
    StreamStore.start disk { path } =
      { state := (diskWith disk path [], storeWith disk path []), result := .ok () } := by
  have hopened := Disk.openToWrite_eq_ok_iff.mpr ⟨htakes, rfl, rfl, rfl⟩
  simp only [start, hcheck, hopened]
  rfl

/-- Records are taken one after the other up to the first that has no UTF-8 form, which ends the
call. -/
theorem addAll_storeWith (htakes : disk.TakesFile path) (taken records : List Record) :
    let outcome := (Store.stream (storeWith disk path taken)).addAll (diskWith disk path taken)
      records
    outcome.state =
        (diskWith disk path (taken ++ records.takeWhile Record.isEncodable),
          .stream (storeWith disk path (taken ++ records.takeWhile Record.isEncodable))) ∧
      (records.all Record.isEncodable = true → outcome.result = .ok ()) ∧
      (records.all Record.isEncodable = false →
        ∃ fault, outcome.result = .error (.write path (.unencodable fault))) := by
  induction records generalizing taken with
  | nil => exact ⟨by simp [addAll], fun _ => rfl, by simp⟩
  | cons record records ih =>
      cases h : record.isEncodable with
      | true =>
          have hadd : (Store.stream (storeWith disk path taken)).add (diskWith disk path taken)
              record =
                { state := (diskWith disk path (taken ++ [record]),
                    .stream (storeWith disk path (taken ++ [record])))
                  result := .ok () } := by
            simp only [Store.add, Outcome.within, add_of_isEncodable htakes taken h]
          rw [addAll, hadd, Outcome.andThen_of_ok rfl]
          simpa [h] using ih (taken ++ [record])
      | false =>
          obtain ⟨fault, hrefused⟩ :=
            add_of_not_isEncodable (isOpen_storeWith disk path taken) (diskWith disk path taken) h
          have hadd : (Store.stream (storeWith disk path taken)).add (diskWith disk path taken)
              record =
                { state := (diskWith disk path taken, .stream (storeWith disk path taken))
                  result := .error (.write path (.unencodable fault)) } := by
            simp only [Store.add, Outcome.within, hrefused, path_storeWith]
          rw [addAll, hadd, Outcome.andThen_of_error rfl]
          simp [h]

theorem isEncodable_closed {taken : List Record} (h : ∀ record ∈ taken, record.isEncodable) :
    (closed taken).isEncodable = true := by
  have hwaiting : (waiting taken).isEncodable = true := by
    unfold waiting
    split <;> decide
  have hclosing : (storeWith {} [] taken).closing.isEncodable = true := by
    unfold closing
    split <;> decide
  rw [← streamed_closing {} []]
  simp [isEncodable_streamed h, hwaiting, hclosing]

theorem state_finish_storeWith (htakes : disk.TakesFile path) (taken : List Record) :
    ((storeWith disk path taken).finish (diskWith disk path taken)).state.1 =
        disk.setContent path (ascii (closed taken)) ∧
      ((storeWith disk path taken).finish (diskWith disk path taken)).result = .ok () := by
  obtain ⟨hstate, hresult⟩ := finish_of_flush rfl rfl
    (flush_storeWith htakes taken (storeWith disk path taken).closing)
  rw [hstate, streamed_closing]
  exact ⟨rfl, hresult⟩

/-- A closed file is read back as the records that were taken. -/
theorem finish_storeWith (htakes : disk.TakesFile path) {taken : List Record}
    (h : ∀ record ∈ taken, record.isEncodable) :
    ((storeWith disk path taken).finish (diskWith disk path taken)).result = .ok () ∧
      load ((storeWith disk path taken).finish (diskWith disk path taken)).state.1 path =
        .ok taken := by
  obtain ⟨hstate, hresult⟩ := state_finish_storeWith htakes taken
  have hencode := Utf8.encode_eq_ok_iff.mpr ⟨isEncodable_closed h, rfl⟩
  rw [hstate]
  exact ⟨hresult, load_setContent htakes (readBytes_closed hencode)⟩

/-! ## Devices -/

/-- An open store whose output is a device. -/
structure OnDevice (store : StreamStore) : Prop where
  output : ∃ pending, store.output = some ⟨.device, pending⟩
  isOpen : store.finished = false

/-- A device stays a device, and it takes no data. -/
theorem flush_device (disk : Disk) (pending bytes : Bytes) :
    ∃ later result, Output.flush disk ⟨.device, pending⟩ bytes = (disk, ⟨.device, later⟩, result) ∧
      (bytes ≠ [] → ∃ fault, result = .error fault) := by
  unfold Output.flush Disk.write
  by_cases hempty : (pending ++ bytes).isEmpty
  · refine ⟨[], .ok (), by simp [hempty], ?_⟩
    intro hbytes
    simp_all
  · exact ⟨pending ++ bytes, .error ⟨.noSpace, none⟩, by simp [hempty], fun _ => ⟨_, rfl⟩⟩

/-- A device takes no record. -/
theorem OnDevice.add {store : StreamStore} (h : store.OnDevice) (disk : Disk) (record : Record) :
    ∃ later cause, store.add disk record =
        { state := (disk, later), result := .error (.write store.path cause) } ∧
      later.OnDevice ∧ later.path = store.path ∧ later.added = store.added := by
  obtain ⟨⟨pending, houtput⟩, hopen⟩ := h
  unfold StreamStore.add
  simp only [houtput, hopen]
  cases hencode : Utf8.encode (store.chunk record) with
  | error fault => exact ⟨store, .unencodable fault, rfl, ⟨⟨pending, houtput⟩, hopen⟩, rfl, rfl⟩
  | ok bytes =>
      obtain ⟨later, result, hflush, hfail⟩ := flush_device disk pending bytes
      obtain ⟨fault, rfl⟩ := hfail (Utf8.ne_nil_of_encode hencode (chunk_ne_nil store record))
      simp only [hflush]
      exact ⟨_, .system fault, rfl, ⟨⟨later, rfl⟩, rfl⟩, rfl, rfl⟩

theorem OnDevice.addAll {store : StreamStore} (h : store.OnDevice) (disk : Disk)
    (records : List Record) :
    ∃ later : StreamStore, ((Store.stream store).addAll disk records).state.2 = .stream later ∧
      later.OnDevice := by
  cases records with
  | nil => exact ⟨store, rfl, h⟩
  | cons record records =>
      obtain ⟨later, cause, hadd, hlater, -⟩ := h.add disk record
      have hrefused : (Store.stream store).add disk record =
          { state := (disk, .stream later), result := .error (.write store.path cause) } := by
        simp only [Store.add, Outcome.within, hadd]
      rw [Store.addAll, hrefused, Outcome.andThen_of_error rfl]
      exact ⟨later, rfl, hlater⟩

theorem OnDevice.finish {store : StreamStore} (h : store.OnDevice) (disk : Disk) :
    ∃ fault, (store.finish disk).result = .error (.write store.path (.system fault)) := by
  obtain ⟨⟨pending, houtput⟩, hopen⟩ := h
  have hclosing : ascii store.closing ≠ [] := by
    unfold closing
    split <;> decide
  obtain ⟨later, result, hflush, hfail⟩ := flush_device disk pending (ascii store.closing)
  obtain ⟨fault, rfl⟩ := hfail hclosing
  refine ⟨fault, ?_⟩
  simp only [StreamStore.finish, houtput, hopen, hflush]

/-! ## A whole run -/

/-- What holds after any calls of a store that was started on a path for a file. The records that
have no UTF-8 form are refused, and a call that is refused changes nothing; what is on the disk is
what the records that were taken make; and closing the store leaves a file with just these. -/
theorem run_stream (hstart : (StreamStore.start disk { path }).result = .ok ())
    (hdevice : disk.lookup? path ≠ some .fullDevice) (records : List Record) :
    let opened := (StreamStore.start disk { path }).state
    let now := opened.2.addEach opened.1 records
    let taken := records.filter Record.isEncodable
    now.2.added = taken.length ∧
      (∃ bytes, Utf8.encode (streamed taken) = .ok bytes ∧ now.1.read path = .ok bytes) ∧
      (∀ record, record.isEncodable = true → (now.2.add now.1 record).result = .ok ()) ∧
      (∀ record, record.isEncodable = false →
        ∃ fault, now.2.add now.1 record =
          { state := now, result := .error (.write path (.unencodable fault)) }) ∧
      (now.2.finish now.1).result = .ok () ∧
      load (now.2.finish now.1).state.1 path = .ok taken := by
  obtain ⟨htakes, hstate⟩ := state_start hstart hdevice
  have htaken : ∀ record ∈ records.filter Record.isEncodable, record.isEncodable := by
    intro record hrecord
    exact (List.mem_filter.mp hrecord).2
  simp only [hstate, addEach_storeWith htakes [] records, List.nil_append]
  refine ⟨rfl, ⟨ascii (streamed (records.filter Record.isEncodable)), ?_, ?_⟩, ?_, ?_,
    finish_storeWith htakes htaken⟩
  · exact Utf8.encode_eq_ok_iff.mpr ⟨isEncodable_streamed htaken, rfl⟩
  · exact Disk.read_setContent htakes _
  · intro record hrecord
    rw [add_of_isEncodable htakes _ hrecord]
  · intro record hrecord
    exact add_of_not_isEncodable (isOpen_storeWith disk path _) _ hrecord

/-- Records of which the one in the middle holds a lone surrogate. -/
def mixed : List Record :=
  [⟨"/b", "cc \"x y.c\"", "x y.c"⟩, ⟨"/b", "cc z.c", [.ofNat 0xD800]⟩, ⟨"/b", "cc z.c", "z.c"⟩]

theorem run_stream_mixed :
    let opened := (StreamStore.start {} { path := "/db" }).state
    let now := opened.2.addEach opened.1 mixed
    let taken := mixed.filter Record.isEncodable
    now.2.added = taken.length ∧
      (∃ bytes, Utf8.encode (streamed taken) = .ok bytes ∧ now.1.read "/db" = .ok bytes) ∧
      (∀ record, record.isEncodable = true → (now.2.add now.1 record).result = .ok ()) ∧
      (∀ record, record.isEncodable = false →
        ∃ fault, now.2.add now.1 record =
          { state := now, result := .error (.write "/db" (.unencodable fault)) }) ∧
      (now.2.finish now.1).result = .ok () ∧
      load (now.2.finish now.1).state.1 "/db" = .ok taken :=
  run_stream (eq_ok_of_toOption (by decide +kernel)) (fun h => absurd h (by decide)) mixed

end BuildRecorder.Store.StreamStore
