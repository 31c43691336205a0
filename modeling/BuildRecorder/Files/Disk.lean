import BuildRecorder.Files.Tree
import BuildRecorder.Path.Posix

/-!
# Disks

A file tree as a program sees it: with a working directory, and with places that it may not write
to. Paths are followed as they are written, so `missing/../x` does not exist.
-/

namespace BuildRecorder

structure Disk where
  tree : Tree := {}
  cwd : Place := []
  unwritable : List Text := []
deriving DecidableEq

/-- An open file that is written to: the serial number and how far it has been written, or nothing
for a device. -/
inductive Handle where
  | file (serial : Nat) (offset : Nat)
  | device
deriving DecidableEq

namespace Disk

open BuildRecorder.Path.Posix (slash isSeparator isAbsolute)

def pathOf (place : Place) : Text := slash :: Text.join [slash] place

/-- The absolute path, found without a look at the tree. -/
def absolute (disk : Disk) (path : Text) : Text :=
  Path.Posix.normalize (Path.Posix.join (pathOf disk.cwd) path)

def start (disk : Disk) (path : Text) : Place := if isAbsolute path then [] else disk.cwd

def placesAlong (disk : Disk) (path : Text) : List Place :=
  Tree.placesAlong (disk.start path) (path.splitOn isSeparator)

/-- Where a path leads when something that exists is wanted. -/
def follow (disk : Disk) (path : Text) : Except SystemProblem Tree.Target :=
  if path.isEmpty then .error .missing
  else disk.tree.walk (disk.start path) (path.splitOn isSeparator)

/-- Where a path leads when a file is to be written. A name with a slash behind it asks for a
directory, whether it exists or not. -/
def followToWrite (disk : Disk) (path : Text) : Except SystemProblem Tree.Target :=
  let names := ((path.splitOn isSeparator).reverse.dropWhile List.isEmpty).reverse
  match names.getLast? with
  | none => disk.follow path
  | some last =>
    if path.getLast? ≠ some slash ∨ last = Tree.here ∨ last = Tree.above then disk.follow path
    else
      match disk.tree.walk (disk.start path) names.dropLast with
      | .ok (.existing _ .directory) => .error .isADirectory
      | .ok (.existing _ _) => .error .notADirectory
      | .ok (.vacant _) => .error .missing
      | .error problem => .error problem

/-- What makes a path unfit before the system sees it. -/
def nameFault? (path : Text) : Option PathFault :=
  match unencodableName? 0 path with
  | some fault => some (.unencodable fault)
  | none => if path.any (· = CodePoint.nul) then some .nul else none

/-- What a path leads to; nothing if it leads nowhere. -/
def lookup? (disk : Disk) (path : Text) : Option Node :=
  if (nameFault? path).isSome then none
  else
    match disk.follow path with
    | .ok (.existing _ node) => some node
    | _ => none

def isDirectory (disk : Disk) (path : Text) : Bool := disk.lookup? path = some .directory

def «exists» (disk : Disk) (path : Text) : Bool := (disk.lookup? path).isSome

def isWritable (disk : Disk) (path : Text) : Bool := !disk.unwritable.contains (disk.absolute path)

def refuse (path : Text) (problem : SystemProblem) : Except PathFault α :=
  .error (.system ⟨problem, some path⟩)

/-- Opens a file for reading and gives its serial number; a device has nothing to read. -/
def openToRead (disk : Disk) (path : Text) : Except PathFault (Option Nat) :=
  match nameFault? path with
  | some fault => .error fault
  | none =>
    match disk.follow path with
    | .ok (.existing _ (.file serial _)) => .ok (some serial)
    | .ok (.existing _ .fullDevice) => .ok none
    | .ok (.existing _ .directory) => refuse path .isADirectory
    | .ok (.vacant _) => refuse path .missing
    | .error problem => refuse path problem

def contentOf (disk : Disk) (opened : Option Nat) : Bytes :=
  (opened.map disk.tree.contentOf).getD []

def read (disk : Disk) (path : Text) : Except PathFault Bytes :=
  (disk.openToRead path).map disk.contentOf

/-- Opens a file for writing: an existing one is emptied, a missing one is created. -/
def openToWrite (disk : Disk) (path : Text) : Except PathFault (Disk × Handle) :=
  match nameFault? path with
  | some fault => .error fault
  | none =>
    match disk.followToWrite path with
    | .ok (.existing _ (.file serial _)) =>
      .ok ({ disk with tree := disk.tree.modify serial fun _ => [] }, .file serial 0)
    | .ok (.existing _ .fullDevice) => .ok (disk, .device)
    | .ok (.existing _ .directory) => refuse path .isADirectory
    | .ok (.vacant place) =>
      .ok ({ disk with tree := disk.tree.addFile place [] }, .file disk.tree.nextSerial 0)
    | .error problem => refuse path problem

/-- Writes bytes over a content from an offset on; a gap before them is filled with zeros. -/
def overwrite (content : Bytes) (offset : Nat) (bytes : Bytes) : Bytes :=
  if offset = content.length then content ++ bytes
  else
    content.take offset ++ List.replicate (offset - content.length) 0 ++ bytes ++
      content.drop (offset + bytes.length)

theorem overwrite_eq (content : Bytes) (offset : Nat) (bytes : Bytes) :
    overwrite content offset bytes =
      content.take offset ++ List.replicate (offset - content.length) 0 ++ bytes ++
        content.drop (offset + bytes.length) := by
  by_cases h : offset = content.length <;> simp [overwrite, h]

/-- Writes to an open file. Nothing to write changes nothing, wherever the file is open at; a device
takes no data. -/
def write (disk : Disk) (handle : Handle) (bytes : Bytes) : Except SystemFault (Disk × Handle) :=
  if bytes.isEmpty then .ok (disk, handle)
  else
    match handle with
    | .device => .error ⟨.noSpace, none⟩
    | .file serial offset =>
      .ok ({ disk with tree := disk.tree.modify serial (overwrite · offset bytes) },
        .file serial (offset + bytes.length))

def replace (disk : Disk) (path : Text) (bytes : Bytes) : Except PathFault Disk :=
  match disk.openToWrite path with
  | .error fault => .error fault
  | .ok (opened, handle) =>
    match opened.write handle bytes with
    | .ok (written, _) => .ok written
    | .error fault => .error (.system fault)

end Disk

end BuildRecorder
