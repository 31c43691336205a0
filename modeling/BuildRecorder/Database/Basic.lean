import BuildRecorder.Database.Record
import BuildRecorder.Log

/-!
# Compilation databases

A database holds at most one record per source file, in the order in which the files were first
seen. Storing a record for a file that is known replaces its directory and command in place.
-/

namespace BuildRecorder

structure Database where
  records : List Record := []
deriving DecidableEq

namespace Database

def empty : Database := {}

def size (db : Database) : Nat := db.records.length

def files (db : Database) : List Text := db.records.map (·.file)

def contains (db : Database) (file : Text) : Bool := db.records.any (·.file = file)

def get? (db : Database) (file : Text) : Option Record := db.records.find? (·.file = file)

/-- Stores a record: in the place of the one for the same file, else at the end. -/
def upsert (db : Database) (record : Record) : Database :=
  if db.contains record.file then
    ⟨db.records.map fun old => if old.file = record.file then record else old⟩
  else ⟨db.records ++ [record]⟩

def upsertAll (db : Database) (records : List Record) : Database := records.foldl upsert db

def ofRecords (records : List Record) : Database := empty.upsertAll records

/-- The records that find their file known already, one after the other. -/
def collapsed : Database → List Record → List Record
  | _, [] => []
  | db, record :: records =>
    let later := collapsed (db.upsert record) records
    if db.contains record.file then record :: later else later

def collapseLog (records : List Record) : Log :=
  (collapsed empty records).map fun record =>
    ⟨.debug, .database, "Collapsed duplicate entry for " ++ record.file⟩

/-- The database as a JSON document, indented by two. -/
def document (db : Database) : Text :=
  if db.records.isEmpty then "[]"
  else "[\n" ++ Text.join ",\n" (db.records.map Record.indented) ++ "\n]"

/-- A key that can never be in a database, by its kind. -/
structure NotAKey where
  kind : Text
deriving DecidableEq

def NotAKey.message (fault : NotAKey) : Text := "unhashable type: '" ++ fault.kind ++ "'"

/-- Looks up any value: one that is no text is no file, and a container is not even a key. -/
def find? (db : Database) : Json → Except NotAKey (Option Record)
  | .text file => .ok (db.get? file)
  | .array items => .error ⟨(Json.array items).kindName⟩
  | .object fields => .error ⟨(Json.object fields).kindName⟩
  | _ => .ok none

end Database

end BuildRecorder
