import BuildRecorder.Proofs.Database.Document
import BuildRecorder.Proofs.Files.Disk
import BuildRecorder.Store.Basic

/-!
# Runs of a store

A store is run by opening it, adding records up to the first that is refused, and closing it. What
the output path looked like before counts only through its check and through the records that are
found there, and neither is lost when a content is set at the path.
-/

namespace BuildRecorder.Store

variable {disk : Disk} {path : Text}

def run (disk : Disk) (store : Store) (records : List Record) :
    Outcome (Disk × Store) Fault Unit :=
  ((store.start disk).andThen fun (disk, store) _ => store.addAll disk records).andThen
    fun (disk, store) _ => store.finish disk

/-- Opens a store and adds records up to the first that is refused. -/
def intake (disk : Disk) (store : Store) (records : List Record) :
    Outcome (Disk × Store) Fault Unit :=
  (store.start disk).andThen fun (disk, store) _ => store.addAll disk records

theorem run_eq (disk : Disk) (store : Store) (records : List Record) :
    run disk store records =
      (intake disk store records).andThen fun (disk, store) _ => store.finish disk := rfl

theorem intake_of_start {store opened : Store} {disk' : Disk}
    (hstart : (store.start disk).result = .ok ())
    (hstate : (store.start disk).state = (disk', opened)) (records : List Record) :
    (intake disk store records).state = (opened.addAll disk' records).state ∧
      (intake disk store records).result = (opened.addAll disk' records).result := by
  rw [intake, Outcome.andThen_of_ok hstart, hstate]
  exact ⟨rfl, rfl⟩

/-- Whether a fault in writing comes from the system. -/
def Fault.isSystem : Fault → Bool
  | .write _ (.system _) => true
  | _ => false

theorem addAll_append (disk : Disk) (store : Store) (records more : List Record) :
    store.addAll disk (records ++ more) =
      (store.addAll disk records).andThen fun (disk, store) _ => store.addAll disk more := by
  induction records generalizing disk store with
  | nil => rfl
  | cons record records ih =>
      simp only [List.cons_append, addAll, Outcome.andThen_assoc, ih]

theorem start_of_run {store : Store} {records : List Record}
    (h : (run disk store records).result = .ok ()) : (store.start disk).result = .ok () := by
  obtain ⟨_, htaken, -⟩ := Outcome.result_andThen_eq_ok_iff.mp h
  obtain ⟨_, hstart, -⟩ := Outcome.result_andThen_eq_ok_iff.mp htaken
  exact hstart

/-! ## The output path after a content was set -/

theorem checkOutput_eq_ok_iff :
    checkOutput disk path = .ok () ↔
      path ≠ [] ∧ disk.isDirectory (Path.Posix.parent (disk.absolute path)) = true ∧
        disk.isDirectory path = false ∧
        (if disk.exists path then disk.isWritable path = true
          else disk.isWritable (Path.Posix.parent (disk.absolute path)) = true) := by
  unfold checkOutput
  simp only [List.isEmpty_iff]
  split
  · next h => simp [h]
  split
  · next h => simp_all
  split
  · next h => simp [h]
  · next hpath hparent hplace =>
    have hdirectory : disk.isDirectory (Path.Posix.parent (disk.absolute path)) = true := by
      simpa using hparent
    split <;> split <;> simp_all

/-- A path that was fit for output still is when a file has been written there, if that file may be
written to. -/
theorem checkOutput_setContent (hcheck : checkOutput disk path = .ok ())
    (htakes : disk.TakesFile path)
    (hwritable : disk.exists path = false → disk.isWritable path = true) (content : Bytes) :
    checkOutput (disk.setContent path content) path = .ok () := by
  obtain ⟨hne, hparent, -, hfit⟩ := checkOutput_eq_ok_iff.mp hcheck
  have hlookup := Disk.lookup?_setContent htakes content
  have hfile : (disk.setContent path content).isDirectory path = false := by
    simp [Disk.isDirectory, hlookup]
  have hexists : (disk.setContent path content).exists path = true := by
    simp [Disk.exists, hlookup]
  refine checkOutput_eq_ok_iff.mpr ⟨hne, ?_, hfile, ?_⟩
  · rw [Disk.absolute_setContent]
    exact Disk.isDirectory_setContent hparent path content
  · rw [if_pos hexists, Disk.isWritable_setContent]
    cases hold : disk.exists path with
    | true => simpa [hold] using hfit
    | false => exact hwritable hold

theorem load_setContent (htakes : disk.TakesFile path) {content : Bytes} {records : List Record}
    (hread : Database.readBytes content = .ok records) :
    load (disk.setContent path content) path = .ok records := by
  simp only [load, Disk.read_setContent htakes, hread]

theorem read_of_load {records : List Record} (h : load disk path = .ok records) :
    ∃ content, disk.read path = .ok content ∧ Database.readBytes content = .ok records := by
  unfold load at h
  split at h
  · simp at h
  · simp at h
  · next content hread =>
    refine ⟨content, hread, ?_⟩
    split at h
    · next found hfound => rw [hfound, Except.ok.inj h]
    · simp at h

/-- The records that are found at a path: none if there is no database. -/
def found (disk : Disk) (path : Text) : List Record := (load disk path).toOption.getD []

theorem found_of_load {records : List Record} (h : load disk path = .ok records) :
    found disk path = records := by
  simp [found, h, Except.toOption]

theorem found_of_load_error {fault : Fault} (h : load disk path = .error fault) :
    found disk path = [] := by
  simp [found, h, Except.toOption]

theorem found_of_not_exists (h : disk.exists path = false) : found disk path = [] := by
  cases hload : load disk path with
  | error fault => exact found_of_load_error hload
  | ok records =>
      obtain ⟨content, hread, -⟩ := read_of_load hload
      simp [Disk.exists_of_read hread] at h

end BuildRecorder.Store
