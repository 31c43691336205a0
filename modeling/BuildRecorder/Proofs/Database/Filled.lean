import BuildRecorder.Proofs.Database.Indexed

/-!
# Filled databases

A call changes no cell but the one that is kept for its file. The cells that were handed over but
not kept are therefore as they were, and all calls once more change nothing: the second run does
what the first one did, or what was done at its end. With that it is told what a database holds that
was filled from memory.
-/

namespace BuildRecorder.Database.Indexed

variable {db : Indexed}

/-! ## Cells that are not kept -/

theorem order_subset_upsert (cell : Cell) : db.order ⊆ (db.upsert cell).2.order := by
  unfold upsert
  dsimp only
  split
  · exact List.subset_append_left _ _
  · exact List.Subset.refl _

theorem mem_order_of_mem_upsert {cell other : Cell} (h : other ∈ (db.upsert cell).2.order) :
    other ∈ db.order ∨ other = cell := by
  unfold upsert at h
  dsimp only at h
  split at h
  · simpa using h
  · exact .inl h

theorem order_subset_upsertEach (cells : List Cell) : db.order ⊆ (db.upsertEach cells).2.order := by
  induction cells generalizing db with
  | nil => exact List.Subset.refl _
  | cons cell cells ih => exact List.Subset.trans (order_subset_upsert cell) ih

namespace InStep

theorem memory_upsert_of_notMem (h : InStep db) (cell : Cell) {other : Cell}
    (hother : other ∉ db.order) : (db.upsert cell).2.memory other = db.memory other := by
  rcases h.upsert_cases cell with ⟨-, hupsert⟩ | ⟨kept, hkept, -, hupsert⟩
  · rw [hupsert, memory_append]
  · rw [hupsert, memory_overwrite_of_ne (ne_of_mem_of_not_mem hkept hother).symm]

/-- A cell that is not kept is as it was. -/
theorem memory_upsertEach_of_notMem (h : InStep db) (cells : List Cell) {other : Cell}
    (hother : other ∉ (db.upsertEach cells).2.order) :
    (db.upsertEach cells).2.memory other = db.memory other := by
  induction cells generalizing db with
  | nil => rfl
  | cons cell cells ih =>
      have hfirst : other ∉ (db.upsert cell).2.order :=
        fun hmem => hother (order_subset_upsertEach cells hmem)
      rw [snd_upsertEach_cons, ih (h.upsert cell) hother]
      exact h.memory_upsert_of_notMem cell fun hmem => hfirst (order_subset_upsert cell hmem)

/-- A cell that is handed over once, and not kept before, is found as it was. -/
theorem given_of_nodup (h : InStep db) {cells : List Cell} (hcells : cells.Nodup)
    (hfresh : ∀ cell ∈ cells, cell ∉ db.order) : db.given cells = cells.map db.memory := by
  induction cells generalizing db with
  | nil => rfl
  | cons cell cells ih =>
      obtain ⟨hcell, hlater⟩ := List.nodup_cons.mp hcells
      obtain ⟨-, hothers⟩ := List.forall_mem_cons.mp hfresh
      have hnext : ∀ other ∈ cells, other ∉ (db.upsert cell).2.order := by
        intro other hother hmem
        rcases mem_order_of_mem_upsert hmem with hkept | rfl
        · exact hothers other hother hkept
        · exact hcell hother
      rw [given, ih (h.upsert cell) hlater hnext, List.map_cons]
      congr 1
      exact List.map_congr_left fun other hother =>
        h.memory_upsert_of_notMem cell (hothers other hother)

end InStep

/-! ## The same calls again -/

/-- A second run of some calls, as far as the first run that it follows. It has the order of the
end, and each record is as in the first run so far, or as it was at the end of it. -/
structure Repeats (last now again : Indexed) : Prop where
  order_eq : again.order = last.order
  index_eq : again.index = last.index
  record_cases : ∀ cell, again.memory cell = now.memory cell ∨ again.memory cell = last.memory cell
  record_eq : ∀ cell ∉ last.order, again.memory cell = now.memory cell

namespace Repeats

variable {last now again : Indexed} {cell : Cell} {cells : List Cell}

theorem file_eq (h : Repeats last now again)
    (hfile : ∀ other, (last.memory other).file = (now.memory other).file) (other : Cell) :
    (again.memory other).file = (now.memory other).file := by
  rcases h.record_cases other with heq | heq
  · rw [heq]
  · rw [heq, hfile]

/-- Both runs find the same record in a cell that is never kept. -/
theorem overwrite (h : Repeats last now again) {kept : Cell} (hkept : kept ∈ last.order)
    (hcell : cell ∉ last.order) (hnow : (now.memory kept).file = (now.memory cell).file)
    (hagain : (again.memory kept).file = (again.memory cell).file) :
    Repeats last (now.overwrite kept (now.memory cell))
      (again.overwrite kept (again.memory cell)) := by
  refine ⟨h.order_eq, h.index_eq, fun other => ?_, fun other hother => ?_⟩
  · by_cases hsame : other = kept
    · left
      rw [hsame, memory_overwrite_self, memory_overwrite_self, Record.takeOver_eq hnow,
        Record.takeOver_eq hagain, h.record_eq cell hcell]
    · rw [memory_overwrite_of_ne hsame, memory_overwrite_of_ne hsame]
      exact h.record_cases other
  · have hne : other ≠ kept := (ne_of_mem_of_not_mem hkept hother).symm
    rw [memory_overwrite_of_ne hne, memory_overwrite_of_ne hne]
    exact h.record_eq other hother

theorem upsert (h : Repeats last now again) (hnow : InStep now)
    (hlast : (now.upsertEach (cell :: cells)).2 = last) :
    Repeats last (now.upsert cell).2 (again.upsert cell).2 := by
  have hstep : InStep last := hlast ▸ hnow.upsertEach _
  have hfile (other : Cell) : (last.memory other).file = (now.memory other).file :=
    hlast ▸ file_upsertEach _ other
  obtain ⟨kept, hkept, hkeptFile⟩ :
      ∃ kept ∈ last.order, (last.memory kept).file = (last.memory cell).file := by
    rw [← mem_files_iff, hfile, ← hlast, hnow.mem_files_upsertEach_iff]
    exact .inr ⟨cell, List.mem_cons_self, rfl⟩
  have honly (other : Cell) (hmem : other ∈ last.order)
      (hsame : (last.memory other).file = (last.memory cell).file) : other = kept :=
    hstep.cell_eq hmem hkept (hsame.trans hkeptFile.symm)
  have hagain : (again.upsert cell).2 = again.overwrite kept (again.memory cell) := by
    apply snd_upsert_of_cell?
    rw [h.file_eq hfile, ← hfile, cell?, h.index_eq, ← cell?]
    exact (hstep.cell?_eq_some_iff _ kept).mpr ⟨hkept, hkeptFile⟩
  rcases hnow.upsert_cases cell with ⟨-, hupsert⟩ | ⟨old, hold, holdFile, hupsert⟩
  · -- The cell is kept from here on, so in the second run it is stored into itself.
    have hcell : cell ∈ (now.upsert cell).2.order := by simp [hupsert]
    obtain rfl := honly cell (hlast ▸ order_subset_upsertEach cells hcell) rfl
    rw [hagain, overwrite_memory, hupsert]
    exact ⟨h.order_eq, h.index_eq, h.record_cases, h.record_eq⟩
  · obtain rfl := honly old (hlast ▸ order_subset_upsertEach (cell :: cells) hold)
      (by rw [hfile, hfile, holdFile])
    rw [hagain, hupsert]
    by_cases hself : cell = old
    · rw [hself, overwrite_memory, overwrite_memory]
      exact h
    · apply h.overwrite hkept (fun hcell => hself (honly cell hcell rfl)) holdFile
      rw [h.file_eq hfile, h.file_eq hfile, holdFile]

theorem upsertEach (h : Repeats last now again) (hnow : InStep now)
    (hlast : (now.upsertEach cells).2 = last) : (again.upsertEach cells).2 = last := by
  induction cells generalizing now again with
  | nil =>
      obtain rfl : now = last := hlast
      obtain ⟨memory, order, index⟩ := again
      obtain rfl : order = now.order := h.order_eq
      obtain rfl : index = now.index := h.index_eq
      obtain rfl : memory = now.memory := funext fun cell => or_self_iff.mp (h.record_cases cell)
      rfl
  | cons cell cells ih => exact ih (h.upsert hnow hlast) (hnow.upsert cell) hlast

end Repeats

/-- What was stored once is stored again without any change. -/
theorem InStep.upsertEach_again (h : InStep db) (cells : List Cell) :
    ((db.upsertEach cells).2.upsertEach cells).2 = (db.upsertEach cells).2 := by
  have hstart : Repeats (db.upsertEach cells).2 db (db.upsertEach cells).2 :=
    ⟨rfl, rfl, fun _ => .inr rfl, fun _ hcell => h.memory_upsertEach_of_notMem cells hcell⟩
  exact hstart.upsertEach h rfl

/-! ## Filled databases -/

variable (memory : Memory)

theorem inStep_ofCells (cells : List Cell) : InStep (ofCells memory cells) :=
  (inStep_empty memory).upsertEach cells

theorem upsertEach_ofCells (cells more : List Cell) :
    ((ofCells memory cells).upsertEach more).2 = ofCells memory (cells ++ more) :=
  (snd_upsertEach_append cells more).symm

theorem toDatabase_ofCells (cells : List Cell) :
    (ofCells memory cells).toDatabase = ofRecords (given { memory } cells) :=
  (inStep_empty memory).toDatabase_upsertEach cells

/-- Records that each lie in a cell of their own make the database of the records. -/
theorem toDatabase_ofCells_of_nodup {cells : List Cell} (hcells : cells.Nodup) :
    (ofCells memory cells).toDatabase = ofRecords (cells.map memory) := by
  rw [toDatabase_ofCells, (inStep_empty memory).given_of_nodup hcells (by simp)]

/-- Each answer is whether its file came for the first time. -/
theorem fst_upsertEach_ofCells (start calls : List Cell) :
    ((ofCells memory start).upsertEach calls).1 =
      List.ofFn fun i : Fin calls.length =>
        decide ((memory (calls.get i)).file ∉
          (start ++ calls.take i).map fun cell => (memory cell).file) := by
  have hfile (cell : Cell) : ((ofCells memory start).memory cell).file = (memory cell).file :=
    file_upsertEach start cell
  have hknown (file : Text) : file ∈ (ofCells memory start).files ↔
      file ∈ start.map fun cell => (memory cell).file := by
    rw [ofCells, (inStep_empty memory).mem_files_upsertEach_iff]
    simp [files, records]
  rw [(inStep_ofCells memory start).fst_upsertEach]
  simp only [hfile, List.mem_append, hknown, List.map_append]

/-- Whatever cells a database was made from and then was given, some of them perhaps many times: it
lists records for distinct files, in the order in which these came first, and its index leads from a
file to the very cell that the list has for it. Each record is the last one that a call found for
its file, an answer is whether a file came for the first time, and all the same calls once more
change nothing. -/
theorem upsertEach_inStep (start calls : List Cell) :
    let cells := start ++ calls
    let file := fun cell => (memory cell).file
    let found := given { memory } cells
    let (answers, db) := (ofCells memory start).upsertEach calls
    (db.files.Nodup ∧ db.files = (cells.map file).eraseDups) ∧
      (∀ name,
        db.cell? name = db.order.find? (fun cell => (db.memory cell).file = name) ∧
          db.get? name = db.records.find? (·.file = name) ∧
          db.contains name = db.files.contains name) ∧
      (db.size = db.files.length ∧ db.index.length = db.size) ∧
      (∀ record ∈ db.records, found.findRev? (·.file = record.file) = some record) ∧
      answers = (List.ofFn fun i : Fin calls.length =>
        decide (file (calls.get i) ∉ (start ++ calls.take i).map file)) ∧
      (db.upsertEach cells).2 = db ∧
      db.toDatabase = ofRecords found := by
  intro cells file found
  have hdb : ((ofCells memory start).upsertEach calls).2 = ofCells memory cells :=
    upsertEach_ofCells memory start calls
  have hstep : InStep (ofCells memory cells) := inStep_ofCells memory cells
  have hkept : (ofCells memory cells).toDatabase = ofRecords found := toDatabase_ofCells memory cells
  dsimp only
  rw [hdb]
  refine ⟨⟨hstep.nodup_files, ?_⟩, fun name => ⟨hstep.cell?_eq_find? name,
    hstep.get?_eq_find? name, ?_⟩, ⟨?_, hstep.length_index⟩, fun record hrecord => ?_,
    fst_upsertEach_ofCells memory start calls, (inStep_empty memory).upsertEach_again cells,
    hkept⟩
  · have hfiles : (ofCells memory cells).files = (ofRecords found).files :=
      congrArg Database.files hkept
    rw [hfiles, files_ofRecords, files_given]
  · rw [Bool.eq_iff_iff, hstep.contains_iff, List.contains_iff_mem]
  · simp [size, files, records]
  · rw [← get?_ofRecords, ← hkept]
    exact get?_eq_some_of_mem hstep.nodup_files hrecord

/-- Three records of which the first and the last are for one file, in the cells 0 to 2. -/
def recompiled : Memory
  | 0 => ⟨"/b", "cc a.c", "a.c"⟩
  | 1 => ⟨"/b", "cc b.c", "b.c"⟩
  | _ => ⟨"/b", "cc -O2 a.c", "a.c"⟩

theorem upsertEach_inStep_recompiled :
    let db := ((ofCells recompiled [0, 2]).upsertEach [1, 2, 0, 1]).2
    recompiled 2 ∈ db.records ∧
      (given { memory := recompiled } [0, 2, 1, 2, 0, 1]).findRev? (·.file = (recompiled 2).file) =
        some (recompiled 2) := by
  intro db
  have hmem : recompiled 2 ∈ db.records := by decide
  obtain ⟨-, -, -, hlast, -⟩ := upsertEach_inStep recompiled [0, 2] [1, 2, 0, 1]
  exact ⟨hmem, hlast _ hmem⟩

end BuildRecorder.Database.Indexed
