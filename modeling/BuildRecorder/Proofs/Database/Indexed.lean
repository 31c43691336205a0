import BuildRecorder.Database.Indexed
import BuildRecorder.Proofs.Database.Upsert
import Mathlib.Data.List.Nodup
import Mathlib.Data.List.OfFn

/-!
# Databases in memory

The list and the index of a database stay in step: a file leads to the one cell of the list whose
record is for that file. Without the memory around it, what is kept is the database that the records
were stored in as each call found them in its cell.
-/

namespace BuildRecorder

namespace Record

@[simp] theorem file_takeOver (record given : Record) :
    (record.takeOver given).file = record.file := rfl

@[simp] theorem takeOver_self (record : Record) : record.takeOver record = record := rfl

theorem takeOver_eq {record given : Record} (h : record.file = given.file) :
    record.takeOver given = given := by
  rw [takeOver, h]

end Record

namespace Database

namespace Memory

variable {memory : Memory} {cell other : Cell} {record : Record}

@[simp] theorem write_self : memory.write cell record cell = record := if_pos rfl

theorem write_of_ne (h : other ≠ cell) : memory.write cell record other = memory other := if_neg h

theorem file_write (h : record.file = (memory cell).file) (other : Cell) :
    (memory.write cell record other).file = (memory other).file := by
  by_cases hother : other = cell
  · rw [hother, write_self, h]
  · rw [write_of_ne hother]

@[simp] theorem write_eq_self : memory.write cell (memory cell) = memory := by
  funext other
  by_cases h : other = cell
  · rw [h, write_self]
  · rw [write_of_ne h]

end Memory

namespace Indexed

variable {db : Indexed}

/-- Every file leads to the cell that the list has for it, and no file has two. -/
structure InStep (db : Indexed) : Prop where
  cell?_eq_some_iff : ∀ file cell,
    db.cell? file = some cell ↔ cell ∈ db.order ∧ (db.memory cell).file = file
  nodup_order : db.order.Nodup
  length_index : db.index.length = db.size

theorem inStep_empty (memory : Memory) : InStep { memory } :=
  ⟨fun _ _ => by simp [cell?], List.nodup_nil, rfl⟩

theorem mem_files_iff (file : Text) :
    file ∈ db.files ↔ ∃ cell ∈ db.order, (db.memory cell).file = file := by
  simp [files, records]

theorem file_mem_files {cell : Cell} (h : cell ∈ db.order) : (db.memory cell).file ∈ db.files :=
  (mem_files_iff _).mpr ⟨cell, h, rfl⟩

namespace InStep

theorem cell_eq (h : InStep db) {cell other : Cell} (hcell : cell ∈ db.order)
    (hother : other ∈ db.order) (hfile : (db.memory cell).file = (db.memory other).file) :
    cell = other := by
  have hfound := (h.cell?_eq_some_iff _ cell).mpr ⟨hcell, hfile⟩
  rw [(h.cell?_eq_some_iff _ other).mpr ⟨hother, rfl⟩] at hfound
  exact (Option.some.inj hfound).symm

theorem cell?_eq_none_iff (h : InStep db) (file : Text) :
    db.cell? file = none ↔ file ∉ db.files := by
  rw [Option.eq_none_iff_forall_ne_some, mem_files_iff]
  simp [h.cell?_eq_some_iff]

theorem nodup_files (h : InStep db) : db.files.Nodup := by
  rw [files, records, List.map_map]
  exact (List.nodup_map_iff_inj_on h.nodup_order).mpr fun cell hcell other hother =>
    h.cell_eq hcell hother

theorem cell?_eq_find? (h : InStep db) (file : Text) :
    db.cell? file = db.order.find? fun cell => (db.memory cell).file = file := by
  cases hfound : db.order.find? fun cell => (db.memory cell).file = file with
  | none =>
      rw [h.cell?_eq_none_iff, mem_files_iff]
      simpa using hfound
  | some cell =>
      rw [h.cell?_eq_some_iff]
      exact ⟨List.mem_of_find?_eq_some hfound, by simpa using List.find?_some hfound⟩

theorem get?_eq_find? (h : InStep db) (file : Text) :
    db.get? file = db.records.find? (·.file = file) := by
  rw [get?, h.cell?_eq_find?, records, List.find?_map]
  rfl

theorem contains_iff (h : InStep db) (file : Text) : db.contains file = true ↔ file ∈ db.files := by
  rw [contains, Option.isSome_iff_ne_none, ne_eq, h.cell?_eq_none_iff, not_not]

/-- A call either keeps its cell, for a file that is new, or writes to the one cell that is kept for
its file. -/
theorem upsert_cases (h : InStep db) (cell : Cell) :
    ((db.memory cell).file ∉ db.files ∧ db.upsert cell = (true, db.append cell)) ∨
      ∃ kept ∈ db.order, (db.memory kept).file = (db.memory cell).file ∧
        db.upsert cell = (false, db.overwrite kept (db.memory cell)) := by
  cases hfound : db.cell? (db.memory cell).file with
  | none => exact .inl ⟨(h.cell?_eq_none_iff _).mp hfound, by simp [upsert, hfound]⟩
  | some kept =>
      obtain ⟨hkept, hfile⟩ := (h.cell?_eq_some_iff _ kept).mp hfound
      exact .inr ⟨kept, hkept, hfile, by simp [upsert, hfound]⟩

end InStep

/-! ## One call -/

@[simp] theorem memory_append (cell : Cell) : (db.append cell).memory = db.memory := rfl

@[simp] theorem order_append (cell : Cell) : (db.append cell).order = db.order ++ [cell] := rfl

@[simp] theorem order_overwrite (cell : Cell) (given : Record) :
    (db.overwrite cell given).order = db.order := rfl

theorem memory_overwrite_self (cell : Cell) (given : Record) :
    (db.overwrite cell given).memory cell = (db.memory cell).takeOver given :=
  Memory.write_self

theorem memory_overwrite_of_ne {cell other : Cell} (h : other ≠ cell) (given : Record) :
    (db.overwrite cell given).memory other = db.memory other :=
  Memory.write_of_ne h

theorem file_overwrite (cell other : Cell) (given : Record) :
    ((db.overwrite cell given).memory other).file = (db.memory other).file :=
  Memory.file_write (Record.file_takeOver _ given) other

theorem overwrite_memory (cell : Cell) : db.overwrite cell (db.memory cell) = db := by
  rw [overwrite, Record.takeOver_self, Memory.write_eq_self]

theorem cell?_append (cell : Cell) (file : Text) :
    (db.append cell).cell? file =
      if file = (db.memory cell).file then some cell else db.cell? file := by
  by_cases h : file = (db.memory cell).file
  · simp [cell?, append, h]
  · rw [cell?, append, List.lookup_cons, beq_false_of_ne h, if_neg h, cell?]

theorem snd_upsert_of_cell? {cell kept : Cell} (h : db.cell? (db.memory cell).file = some kept) :
    (db.upsert cell).2 = db.overwrite kept (db.memory cell) := by
  simp [upsert, h]

/-- The file of a cell is its for good. -/
theorem file_upsert (cell other : Cell) :
    ((db.upsert cell).2.memory other).file = (db.memory other).file := by
  unfold upsert
  dsimp only
  split
  · rfl
  · exact file_overwrite _ other _

namespace InStep

theorem append (h : InStep db) {cell : Cell} (hnew : (db.memory cell).file ∉ db.files) :
    InStep (db.append cell) := by
  have hother : ∀ other ∈ db.order, (db.memory other).file ≠ (db.memory cell).file :=
    fun other hmem heq => hnew (heq ▸ file_mem_files hmem)
  refine ⟨fun file other => ?_, ?_, ?_⟩
  · rw [cell?_append, memory_append, order_append, List.mem_append, List.mem_singleton]
    split
    · next hfile =>
      subst hfile
      constructor
      · intro heq
        cases heq
        exact ⟨.inr rfl, rfl⟩
      · rintro ⟨hmem | rfl, hfile⟩
        · exact absurd hfile (hother other hmem)
        · rfl
    · next hfile =>
      rw [h.cell?_eq_some_iff]
      constructor
      · rintro ⟨hmem, heq⟩
        exact ⟨.inl hmem, heq⟩
      · rintro ⟨hmem | rfl, heq⟩
        · exact ⟨hmem, heq⟩
        · exact absurd heq.symm hfile
  · rw [order_append, List.nodup_append_comm, List.singleton_append, List.nodup_cons]
    exact ⟨fun hmem => hother cell hmem rfl, h.nodup_order⟩
  · simp [Indexed.append, size, h.length_index]

theorem overwrite (h : InStep db) (cell : Cell) (given : Record) :
    InStep (db.overwrite cell given) := by
  refine ⟨fun file other => ?_, h.nodup_order, h.length_index⟩
  rw [file_overwrite]
  exact h.cell?_eq_some_iff file other

theorem upsert (h : InStep db) (cell : Cell) : InStep (db.upsert cell).2 := by
  rcases h.upsert_cases cell with ⟨hnew, hupsert⟩ | ⟨kept, -, -, hupsert⟩
  · rw [hupsert]
    exact h.append hnew
  · rw [hupsert]
    exact h.overwrite kept _

/-- A record that is changed in place is the only one for its file. -/
theorem records_overwrite (h : InStep db) {kept : Cell} (hkept : kept ∈ db.order) {given : Record}
    (hfile : (db.memory kept).file = given.file) :
    (db.overwrite kept given).records =
      db.records.map fun old => if old.file = given.file then given else old := by
  rw [records, records, order_overwrite, List.map_map]
  apply List.map_congr_left
  intro cell hcell
  rw [Function.comp_apply]
  by_cases hsame : cell = kept
  · rw [hsame, memory_overwrite_self, if_pos hfile, Record.takeOver_eq hfile]
  · have hne : (db.memory cell).file ≠ given.file := fun heq =>
      hsame (h.cell_eq hcell hkept (heq.trans hfile.symm))
    rw [memory_overwrite_of_ne hsame, if_neg hne]

/-- Without the memory around it, a call stores the record that it finds in its cell. -/
theorem toDatabase_upsert (h : InStep db) (cell : Cell) :
    (db.upsert cell).2.toDatabase = db.toDatabase.upsert (db.memory cell) := by
  have hcontains : db.toDatabase.contains (db.memory cell).file = true ↔
      (db.memory cell).file ∈ db.files := Database.contains_iff _
  rcases h.upsert_cases cell with ⟨hnew, hupsert⟩ | ⟨kept, hkept, hfile, hupsert⟩
  · rw [hupsert, Database.upsert, if_neg (mt hcontains.mp hnew)]
    simp [toDatabase, records]
  · rw [hupsert, Database.upsert, if_pos (hcontains.mpr (hfile ▸ file_mem_files hkept)),
      toDatabase, h.records_overwrite hkept hfile, toDatabase]

/-- The answer of a call is whether its file is new. -/
theorem fst_upsert (h : InStep db) (cell : Cell) :
    (db.upsert cell).1 = decide ((db.memory cell).file ∉ db.files) := by
  rcases h.upsert_cases cell with ⟨hnew, hupsert⟩ | ⟨kept, hkept, hfile, hupsert⟩
  · rw [hupsert, decide_eq_true hnew]
  · rw [hupsert, decide_eq_false (not_not.mpr (hfile ▸ file_mem_files hkept))]

end InStep

/-! ## One call after the other -/

/-- The records as the calls find them in their cells. -/
def given (db : Indexed) : List Cell → List Record
  | [] => []
  | cell :: cells => db.memory cell :: given (db.upsert cell).2 cells

theorem fst_upsertEach_cons (cell : Cell) (cells : List Cell) :
    (db.upsertEach (cell :: cells)).1 =
      (db.upsert cell).1 :: ((db.upsert cell).2.upsertEach cells).1 := rfl

theorem snd_upsertEach_cons (cell : Cell) (cells : List Cell) :
    (db.upsertEach (cell :: cells)).2 = ((db.upsert cell).2.upsertEach cells).2 := rfl

theorem snd_upsertEach_append (cells more : List Cell) :
    (db.upsertEach (cells ++ more)).2 = ((db.upsertEach cells).2.upsertEach more).2 := by
  induction cells generalizing db with
  | nil => rfl
  | cons cell cells ih => exact ih

theorem file_upsertEach (cells : List Cell) (cell : Cell) :
    ((db.upsertEach cells).2.memory cell).file = (db.memory cell).file := by
  induction cells generalizing db with
  | nil => rfl
  | cons first cells ih => exact ih.trans (file_upsert first cell)

theorem files_given (cells : List Cell) :
    (db.given cells).map (·.file) = cells.map fun cell => (db.memory cell).file := by
  induction cells generalizing db with
  | nil => rfl
  | cons cell cells ih =>
      rw [given, List.map_cons, ih, List.map_cons]
      simp only [file_upsert]

namespace InStep

theorem upsertEach (h : InStep db) (cells : List Cell) : InStep (db.upsertEach cells).2 := by
  induction cells generalizing db with
  | nil => exact h
  | cons cell cells ih => exact ih (h.upsert cell)

theorem toDatabase_upsertEach (h : InStep db) (cells : List Cell) :
    (db.upsertEach cells).2.toDatabase = db.toDatabase.upsertAll (db.given cells) := by
  induction cells generalizing db with
  | nil => rfl
  | cons cell cells ih =>
      rw [snd_upsertEach_cons, ih (h.upsert cell), h.toDatabase_upsert, given, upsertAll_cons]

theorem mem_files_upsert_iff (h : InStep db) (cell : Cell) (file : Text) :
    file ∈ (db.upsert cell).2.files ↔ file ∈ db.files ∨ file = (db.memory cell).file := by
  have hmem : file ∈ (db.toDatabase.upsert (db.memory cell)).files ↔ _ :=
    Database.mem_files_upsert_iff (db.memory cell) file
  rwa [← h.toDatabase_upsert] at hmem

/-- Each answer is whether its file is none of those before it. -/
theorem fst_upsertEach (h : InStep db) (cells : List Cell) :
    (db.upsertEach cells).1 = List.ofFn fun i : Fin cells.length =>
      decide ((db.memory (cells.get i)).file ∉
        db.files ++ (cells.take i).map fun cell => (db.memory cell).file) := by
  induction cells generalizing db with
  | nil => rfl
  | cons cell cells ih =>
      rw [fst_upsertEach_cons, ih (h.upsert cell), h.fst_upsert]
      simp only [List.length_cons, List.ofFn_succ]
      congr 1
      · simp
      · congr 1
        funext i
        simp [h.mem_files_upsert_iff, file_upsert, or_assoc]

theorem mem_files_upsertEach_iff (h : InStep db) (cells : List Cell) (file : Text) :
    file ∈ (db.upsertEach cells).2.files ↔
      file ∈ db.files ∨ ∃ cell ∈ cells, (db.memory cell).file = file := by
  induction cells generalizing db with
  | nil => simp [Indexed.upsertEach]
  | cons cell cells ih =>
      rw [snd_upsertEach_cons, ih (h.upsert cell), h.mem_files_upsert_iff]
      simp [file_upsert, or_assoc, eq_comm]

end InStep

end Indexed

end Database

end BuildRecorder
