import BuildRecorder.Database.Basic

/-!
# Databases in memory

While a database is filled, its records lie in memory. It holds each of them twice: a list gives
the order, and an index leads from a file to its record. Both hold the cell that the record lies in
and no copy of it, so that a change in place is seen through either, and by whoever handed the cell
over.
-/

namespace BuildRecorder

/-- The record with directory and command of another one. -/
def Record.takeOver (record given : Record) : Record :=
  { record with directory := given.directory, command := given.command }

namespace Database

/-- The number of a place in memory that one record lies in. -/
abbrev Cell := Nat

abbrev Memory := Cell → Record

def Memory.write (memory : Memory) (cell : Cell) (record : Record) : Memory :=
  fun other => if other = cell then record else memory other

structure Indexed where
  memory : Memory
  order : List Cell := []
  index : List (Text × Cell) := []

namespace Indexed

def cell? (db : Indexed) (file : Text) : Option Cell := db.index.lookup file

def get? (db : Indexed) (file : Text) : Option Record := (db.cell? file).map db.memory

def contains (db : Indexed) (file : Text) : Bool := (db.cell? file).isSome

def size (db : Indexed) : Nat := db.order.length

def records (db : Indexed) : List Record := db.order.map db.memory

def files (db : Indexed) : List Text := db.records.map (·.file)

/-- Keeps a cell, at the end and under the file of its record. -/
def append (db : Indexed) (cell : Cell) : Indexed :=
  { db with
    order := db.order ++ [cell]
    index := ((db.memory cell).file, cell) :: db.index }

/-- Changes the record of a cell in place, all but its file. -/
def overwrite (db : Indexed) (cell : Cell) (given : Record) : Indexed :=
  { db with memory := db.memory.write cell ((db.memory cell).takeOver given) }

/-- Stores the record of a cell. If its file is new the cell itself is kept; else the record that is
kept for the file takes over its directory and command. The answer is whether the file is new. -/
def upsert (db : Indexed) (cell : Cell) : Bool × Indexed :=
  let given := db.memory cell
  match db.cell? given.file with
  | none => (true, db.append cell)
  | some kept => (false, db.overwrite kept given)

/-- Stores one cell after the other, and collects the answers. -/
def upsertEach (db : Indexed) : List Cell → List Bool × Indexed
  | [] => ([], db)
  | cell :: cells =>
    let (isNew, next) := db.upsert cell
    let (answers, last) := next.upsertEach cells
    (isNew :: answers, last)

def ofCells (memory : Memory) (cells : List Cell) : Indexed := (upsertEach { memory } cells).2

/-- What is kept, without the memory around it. -/
def toDatabase (db : Indexed) : Database := ⟨db.records⟩

end Indexed

end Database

end BuildRecorder
