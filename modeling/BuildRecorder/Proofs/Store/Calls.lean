import BuildRecorder.Proofs.Store.Merge
import Mathlib.Data.List.Induction

/-!
# Calls in any order

A store is called in any order and any number of times, also after calls that failed. What came
before is told by the history of the calls alone: whether a start among them succeeded, and whether
a finish came behind such a start. For a merging store that is its phase. It touches the disk in one
call at most, the first finish behind a start that succeeded.
-/

namespace BuildRecorder.Store

inductive Call where
  | start
  | add (record : Record)
  | finish
deriving DecidableEq

def call (disk : Disk) (store : Store) : Call → Outcome (Disk × Store) Fault Unit
  | .start => store.start disk
  | .add record => store.add disk record
  | .finish => store.finish disk

/-- Makes calls one after the other, and goes on after those that fail. -/
def callEach (disk : Disk) (store : Store) : List Call → Disk × Store
  | [] => (disk, store)
  | call :: calls =>
    let (disk, store) := (store.call disk call).state
    store.callEach disk calls

/-! ## Histories -/

/-- A start among the calls succeeds. -/
def Opens (disk : Disk) (store : Store) (calls : List Call) : Prop :=
  ∃ before later, calls = before ++ .start :: later ∧
    ((store.callEach disk before).2.start (store.callEach disk before).1).result = .ok ()

/-- A finish among the calls comes behind a start that succeeded. -/
def Closes (disk : Disk) (store : Store) (calls : List Call) : Prop :=
  ∃ before later, calls = before ++ .finish :: later ∧ Opens disk store before

theorem callEach_append (disk : Disk) (store : Store) (calls more : List Call) :
    store.callEach disk (calls ++ more) =
      (store.callEach disk calls).2.callEach (store.callEach disk calls).1 more := by
  induction calls generalizing disk store with
  | nil => rfl
  | cons call calls ih => exact ih _ _

theorem callEach_concat (disk : Disk) (store : Store) (calls : List Call) (call : Call) :
    store.callEach disk (calls ++ [call]) =
      ((store.callEach disk calls).2.call (store.callEach disk calls).1 call).state :=
  callEach_append disk store calls [call]

/-- An item of a list with one more item is an item of the list or the one that was added. -/
theorem exists_concat_eq_iff {α : Type} {P : List α → List α → Prop} {xs : List α} {a x : α} :
    (∃ before later, xs ++ [a] = before ++ x :: later ∧ P before later) ↔
      (∃ before later, xs = before ++ x :: later ∧ P before (later ++ [a])) ∨
        (a = x ∧ P xs []) := by
  constructor
  · rintro ⟨before, later, heq, hsplit⟩
    rcases List.eq_nil_or_concat later with rfl | ⟨later, last, rfl⟩
    · obtain ⟨rfl, hlast⟩ := List.append_inj' heq rfl
      exact .inr ⟨(List.cons.inj hlast).1, hsplit⟩
    · have hconcat : xs ++ [a] = before ++ x :: later ++ [last] := by simpa using heq
      obtain ⟨hxs, hlast⟩ := List.append_inj' hconcat rfl
      obtain rfl : a = last := (List.cons.inj hlast).1
      exact .inl ⟨before, later, hxs, by simpa using hsplit⟩
  · rintro (⟨before, later, rfl, hsplit⟩ | ⟨rfl, hxs⟩)
    · exact ⟨before, later ++ [a], by simp, hsplit⟩
    · exact ⟨xs, [], rfl, hxs⟩

variable {disk : Disk} {path : Text} {store : Store} {calls : List Call}

theorem opens_concat_iff {call : Call} :
    Opens disk store (calls ++ [call]) ↔
      Opens disk store calls ∨ (call = .start ∧
        ((store.callEach disk calls).2.start (store.callEach disk calls).1).result = .ok ()) :=
  exists_concat_eq_iff

theorem closes_concat_iff {call : Call} :
    Closes disk store (calls ++ [call]) ↔
      Closes disk store calls ∨ (call = .finish ∧ Opens disk store calls) :=
  exists_concat_eq_iff

theorem not_opens_nil : ¬ Opens disk store [] := by
  rintro ⟨before, later, heq, -⟩
  simp at heq

theorem not_closes_nil : ¬ Closes disk store [] := by
  rintro ⟨before, later, heq, -⟩
  simp at heq

theorem Closes.append (h : Closes disk store calls) (more : List Call) :
    Closes disk store (calls ++ more) := by
  obtain ⟨before, later, rfl, hbefore⟩ := h
  exact ⟨before, later ++ more, by simp, hbefore⟩

/-! ## The phases of a merging store -/

namespace MergeStore

theorem isOpen_eq_true_iff {store : MergeStore} :
    store.isOpen = true ↔ store.started = true ∧ store.finished = false := by
  simp [isOpen]

/-- A start that fails changes nothing. -/
theorem state_start_of_error {store : MergeStore} {fault : Fault}
    (h : (store.start disk).result = .error fault) : (store.start disk).state = store := by
  unfold start at h ⊢
  split at h
  · rfl
  · split at h
    · next hexists =>
      rw [if_pos hexists]
      split at h
      · cases h
      · cases h
      · rfl
    · cases h

theorem phase_start (disk : Disk) (store : MergeStore) :
    (store.start disk).state.path = store.path ∧
      (store.start disk).state.finished = store.finished ∧
      ((store.start disk).state.started = true ↔
        store.started = true ∨ (store.start disk).result = .ok ()) := by
  cases hresult : (store.start disk).result with
  | error fault => simp [state_start_of_error hresult]
  | ok =>
      obtain ⟨-, ⟨-, hstate⟩ | ⟨records, -, hstate⟩ | ⟨fault, -, hstate⟩⟩ := start_cases hresult
      all_goals
        rw [hstate]
        exact ⟨rfl, rfl, by simp⟩

/-- A finish closes a store that is open, and does nothing to any other one. -/
theorem phase_finish (disk : Disk) (store : MergeStore) :
    (store.finish disk).state.2 = { store with finished := store.finished || store.started } ∧
      ((store.finish disk).state.1 ≠ disk → store.isOpen = true) := by
  cases hopen : store.isOpen with
  | true =>
      obtain ⟨hstarted, -⟩ := isOpen_eq_true_iff.mp hopen
      refine ⟨?_, fun _ => rfl⟩
      rcases finish_cases disk hopen with ⟨bytes, -, -, hstate, -⟩ | ⟨-, hstate, -⟩ <;>
        simp [hstate, hstarted]
  | false =>
      have hkept : (store.finished || store.started) = store.finished := by
        cases hfinished : store.finished <;> simp_all [isOpen]
      rw [finish_of_not_isOpen hopen, hkept]
      exact ⟨rfl, fun hchanged => absurd rfl hchanged⟩

end MergeStore

/-- All that a call of a merging store does to its phase and to the disk. -/
theorem call_merge (disk : Disk) (store : MergeStore) (call : Call) :
    ∃ later : MergeStore, ((Store.merge store).call disk call).state.2 = .merge later ∧
      later.path = store.path ∧
      (later.started = true ↔ store.started = true ∨
        (call = .start ∧ ((Store.merge store).start disk).result = .ok ())) ∧
      (later.finished = true ↔ store.finished = true ∨
        (call = .finish ∧ store.started = true)) ∧
      (((Store.merge store).call disk call).state.1 ≠ disk →
        call = .finish ∧ store.isOpen = true) := by
  cases call with
  | start =>
      obtain ⟨hpath, hfinished, hstarted⟩ := MergeStore.phase_start disk store
      have hresult : ((Store.merge store).start disk).result = (store.start disk).result := rfl
      refine ⟨(store.start disk).state, rfl, hpath, ?_, by simp [hfinished], ?_⟩
      · simp [hstarted, hresult]
      · intro hchanged
        exact absurd rfl hchanged
  | add record =>
      refine ⟨(store.add record).state, rfl, ?_⟩
      have hdisk : ((Store.merge store).call disk (.add record)).state.1 = disk := rfl
      rw [hdisk, MergeStore.add]
      split <;> simp
  | finish =>
      obtain ⟨hstate, hdisk⟩ := MergeStore.phase_finish disk store
      refine ⟨(store.finish disk).state.2, rfl, by rw [hstate], by simp [hstate], ?_, ?_⟩
      · simp [hstate]
      · intro hchanged
        exact ⟨rfl, hdisk hchanged⟩

/-- The phase of a merging store is its history. Until it is closed the disk stays as it was. -/
theorem callEach_merge (disk : Disk) (path : Text) (calls : List Call) :
    ∃ kept : MergeStore, ((create .merge path).callEach disk calls).2 = .merge kept ∧
      kept.path = path ∧
      (kept.started = true ↔ Opens disk (create .merge path) calls) ∧
      (kept.finished = true ↔ Closes disk (create .merge path) calls) ∧
      (kept.finished = false → ((create .merge path).callEach disk calls).1 = disk) := by
  induction calls using List.reverseRecOn with
  | nil =>
      refine ⟨{ path }, rfl, rfl, ?_, ?_, fun _ => rfl⟩
      · simp [not_opens_nil]
      · simp [not_closes_nil]
  | append_singleton calls call ih =>
      obtain ⟨kept, hkept, hpath, hopens, hcloses, hdisk⟩ := ih
      obtain ⟨later, hlater, hpath', hstarted, hfinished, hchanged⟩ :=
        call_merge ((create .merge path).callEach disk calls).1 kept call
      rw [← hkept] at hlater hstarted hchanged
      refine ⟨later, ?_, hpath'.trans hpath, ?_, ?_, ?_⟩
      · rw [callEach_concat, hlater]
      · rw [hstarted, hopens, opens_concat_iff]
      · rw [hfinished, hcloses, hopens, closes_concat_iff]
      · intro hunfinished
        have hnot : ¬ (kept.finished = true ∨ (call = .finish ∧ kept.started = true)) := by
          rw [← hfinished, hunfinished]
          simp
        obtain ⟨hkeptOpen, hnofinish⟩ := not_or.mp hnot
        have hsame : (((create .merge path).callEach disk calls).2.call
            ((create .merge path).callEach disk calls).1 call).state.1 =
              ((create .merge path).callEach disk calls).1 := by
          by_contra hne
          obtain ⟨hcall, hopen⟩ := hchanged hne
          exact hnofinish ⟨hcall, (MergeStore.isOpen_eq_true_iff.mp hopen).1⟩
        rw [callEach_concat, hsame]
        exact hdisk (by simpa using hkeptOpen)

theorem disk_callEach_of_closes (hcloses : Closes disk (create .merge path) calls)
    (more : List Call) :
    ((create .merge path).callEach disk (calls ++ more)).1 =
      ((create .merge path).callEach disk calls).1 := by
  induction more using List.reverseRecOn with
  | nil => rw [List.append_nil]
  | append_singleton more call ih =>
      obtain ⟨kept, hkept, -, -, hclosed, -⟩ := callEach_merge disk path (calls ++ more)
      obtain ⟨-, -, -, -, -, hchanged⟩ :=
        call_merge ((create .merge path).callEach disk (calls ++ more)).1 kept call
      have hfinished : kept.finished = true := hclosed.mpr (hcloses.append more)
      rw [← List.append_assoc, callEach_concat, hkept, ← ih]
      by_contra hne
      obtain ⟨-, hopen⟩ := hchanged hne
      rw [(MergeStore.isOpen_eq_true_iff.mp hopen).2] at hfinished
      cases hfinished

theorem call_merge_of_finished {store : MergeStore} (h : store.finished = true) (disk : Disk) :
    (Store.merge store).call disk .finish = { state := (disk, .merge store), result := .ok () } ∧
      ∀ record, (Store.merge store).call disk (.add record) =
        { state := (disk, .merge store), result := .error (.notOpen .merge store.path) } := by
  have hopen : store.isOpen = false := by simp [MergeStore.isOpen, h]
  refine ⟨?_, ?_⟩
  · simp only [call, finish, MergeStore.finish_of_not_isOpen hopen, Outcome.within]
  · intro record
    simp only [call, add, MergeStore.add_of_not_isOpen hopen, Outcome.within]

/-- Whatever was called before, in any order and any number of times: the only call of a merging
store that can change the disk is the first finish behind a start that succeeded. If the system lets
it write, it writes the whole document, or fails, exactly if a record has no UTF-8 form, and changes
nothing. From then on a finish does nothing, a record is refused, and the disk stays as it is. -/
theorem callEach_merge_writes_once (hname : Disk.nameFault? path = none) (disk : Disk)
    (calls : List Call) :
    let fresh := create .merge path
    let now := fresh.callEach disk calls
    (∀ call, (now.2.call now.1 call).state.1 ≠ now.1 →
        call = .finish ∧ Opens disk fresh calls ∧ ¬ Closes disk fresh calls) ∧
      (¬ Closes disk fresh calls → now.1 = disk) ∧
      ∃ store : MergeStore, now.2 = .merge store ∧
        (Opens disk fresh calls → ¬ Closes disk fresh calls →
          (∀ fault, (now.2.call now.1 .finish).result = .error fault → fault.isSystem = false) →
          (store.database.isEncodable = true →
            (now.2.call now.1 .finish).result = .ok () ∧
              ∃ bytes, Utf8.encode (store.database.document ++ "\n") = .ok bytes ∧
                (now.2.call now.1 .finish).state.1.read path = .ok bytes) ∧
            (store.database.isEncodable = false →
              (now.2.call now.1 .finish).state.1 = now.1 ∧
                ∃ fault, (now.2.call now.1 .finish).result =
                  .error (.write path (.unencodable fault)))) ∧
        (Closes disk fresh calls →
          now.2.call now.1 .finish = { state := now, result := .ok () } ∧
            (∀ record, now.2.call now.1 (.add record) =
              { state := now, result := .error (.notOpen .merge path) }) ∧
            ∀ more, (fresh.callEach disk (calls ++ more)).1 = now.1) := by
  intro fresh now
  obtain ⟨store, hstore, hpath, hopens, hcloses, hdisk⟩ := callEach_merge disk path calls
  have hsplit : now = (now.1, .merge store) := Prod.ext rfl hstore
  have hunfinished (h : ¬ Closes disk fresh calls) : store.finished = false :=
    Bool.eq_false_iff.mpr (mt hcloses.mp h)
  refine ⟨?_, fun hnot => hdisk (hunfinished hnot), store, hstore, ?_, ?_⟩
  · intro call hchanged
    obtain ⟨-, -, -, -, -, honly⟩ := call_merge now.1 store call
    rw [← hstore] at honly
    obtain ⟨hcall, hopen⟩ := honly hchanged
    obtain ⟨hstarted, hfinished⟩ := MergeStore.isOpen_eq_true_iff.mp hopen
    refine ⟨hcall, hopens.mp hstarted, ?_⟩
    rw [← hcloses, hfinished]
    simp
  · intro hopened hnot hsystem
    have hopen : store.isOpen = true :=
      MergeStore.isOpen_eq_true_iff.mpr ⟨hopens.mpr hopened, hunfinished hnot⟩
    rw [hsplit] at hsystem ⊢
    rw [← hpath] at hname ⊢
    exact finish_merge hopen hname hsystem
  · intro hclosed
    obtain ⟨hfinish, hadd⟩ := call_merge_of_finished (hcloses.mpr hclosed) now.1
    rw [hpath] at hadd
    refine ⟨?_, ?_, disk_callEach_of_closes hclosed⟩
    · rw [hsplit]
      exact hfinish
    · intro record
      rw [hsplit]
      exact hadd record

/-- A finish that comes too early, and then a record for a file that is known. -/
def hastyCalls : List Call := [.finish, .start, .add changed]

/-- The database of a merging store. -/
def database? : Store → Option Database
  | .merge store => some store.database
  | _ => none

theorem callEach_merge_writes_once_hasty :
    ∃ store : MergeStore,
      ((create .merge "/db").callEach repeatedDisk hastyCalls) = (repeatedDisk, .merge store) ∧
        store.database.isEncodable = true ∧
        ((Store.merge store).call repeatedDisk .finish).result = .ok () ∧
          ∃ bytes, Utf8.encode (store.database.document ++ "\n") = .ok bytes ∧
            ((Store.merge store).call repeatedDisk .finish).state.1.read "/db" = .ok bytes := by
  have hopens : Opens repeatedDisk (create .merge "/db") hastyCalls :=
    ⟨[.finish], [.add changed], rfl, eq_ok_of_toOption (by decide +kernel)⟩
  have hcloses : ¬ Closes repeatedDisk (create .merge "/db") hastyCalls := by
    have hcalls : hastyCalls = [] ++ [.finish] ++ [.start] ++ [.add changed] := rfl
    simp only [hcalls, closes_concat_iff, not_closes_nil, not_opens_nil, and_false, or_self,
      reduceCtorEq, false_and, not_false_eq_true]
  have hdatabase : (database? ((create .merge "/db").callEach repeatedDisk hastyCalls).2).map
      Database.isEncodable = some true := by decide +kernel
  have hname : Disk.nameFault? "/db" = none := by decide
  obtain ⟨-, hdisk, store, hstore, hfinish, -⟩ :=
    callEach_merge_writes_once hname repeatedDisk hastyCalls
  have hreached : (create .merge "/db").callEach repeatedDisk hastyCalls =
      (repeatedDisk, .merge store) := Prod.ext (hdisk hcloses) hstore
  have hencodable : store.database.isEncodable = true := by
    rw [hstore] at hdatabase
    exact Option.some.inj hdatabase
  have hdone : ((Store.merge store).call repeatedDisk .finish).result = .ok () := by
    have hfinished : (((create .merge "/db").callEach repeatedDisk hastyCalls).2.call
        ((create .merge "/db").callEach repeatedDisk hastyCalls).1 .finish).result = .ok () :=
      eq_ok_of_toOption (by decide +kernel)
    rwa [hreached] at hfinished
  rw [hreached] at hfinish
  have hsystem : ∀ fault, ((Store.merge store).call repeatedDisk .finish).result = .error fault →
      fault.isSystem = false := by
    intro fault hfault
    rw [hdone] at hfault
    cases hfault
  obtain ⟨hresult, bytes, hencode, hread⟩ := (hfinish hopens hcloses hsystem).1 hencodable
  exact ⟨store, hreached, hencodable, hresult, bytes, hencode, hread⟩

end BuildRecorder.Store
