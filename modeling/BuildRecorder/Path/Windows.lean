import BuildRecorder.Path.Segments
import BuildRecorder.Text.Case

/-!
# Paths with drives

A path may start with a drive: a character and a colon, or a network share `\\host\share`. Both
slash and backslash separate segments; the backslash is the one that is written.
-/

namespace BuildRecorder.Path.Windows

def backslash : CodePoint := '\\'

def isSeparator (c : CodePoint) : Bool := c = '\\' || c = '/'

/-- Writes every separator as a backslash. -/
def unifySeparators (path : Text) : Text :=
  path.map fun c : CodePoint => if c = '/' then backslash else c

/-- The mark in front of a share in its long form. -/
def longShareMark : Text := "\\\\?\\unc\\"

/-- The length of a share, for a path that starts with two separators: the host begins after them,
or after the mark of the long form, and the share after the next separator. A path with fewer
separators is a share as a whole. -/
def shareLength (path : Text) : Nat :=
  let mark := (unifySeparators (path.take 8)).map CodePoint.asciiLower
  let start := if mark = longShareMark then 8 else 2
  let host := (path.drop start).takeWhile (!isSeparator ·)
  let share := (path.drop (start + host.length + 1)).takeWhile (!isSeparator ·)
  let length := start + host.length + 1 + share.length
  if length < path.length then length else path.length

def driveLength (path : Text) : Nat :=
  match path with
  | a :: b :: _ =>
    if isSeparator a && isSeparator b then shareLength path
    else if b = ':' then 2
    else 0
  | _ => 0

def drive (path : Text) : Text := path.take (driveLength path)

def afterDrive (path : Text) : Text := path.drop (driveLength path)

def isRooted (path : Text) : Bool := path.head?.any isSeparator

/-- A path and what is put behind it, with a separator between them if it needs one. -/
def extend (path rest : Text) : Text :=
  match path.getLast? with
  | none => rest
  | some last => if isSeparator last then path ++ rest else path ++ backslash :: rest

/-- A drive and what follows it. A share must not run into a relative path. -/
def withDrive (drive path : Text) : Text :=
  if !path.isEmpty && !isRooted path && !drive.isEmpty && drive.getLast? ≠ some ':' then
    drive ++ backslash :: path
  else drive ++ path

/-- The path as seen from a base directory: a rooted path takes at most the drive of the base, and a
path on another drive takes nothing from it. -/
def join (base path : Text) : Text :=
  if isRooted (afterDrive path) then
    withDrive (if (drive path).isEmpty then drive base else drive path) (afterDrive path)
  else if (drive path).isEmpty then
    withDrive (drive base) (extend (afterDrive base) (afterDrive path))
  else if (drive path).lower = (drive base).lower then
    withDrive (drive path) (extend (afterDrive base) (afterDrive path))
  else withDrive (drive path) (afterDrive path)

def normalize (path : Text) : Text :=
  let path := unifySeparators path
  let rest := afterDrive path
  let front := if isRooted rest then drive path ++ [backslash] else drive path
  let rooted := front.getLast? = some backslash
  let segments := resolve rooted (Text.splitOn isSeparator (rest.dropWhile isSeparator))
  if front.isEmpty && segments.isEmpty then current
  else front ++ Text.join [backslash] segments

def basename (path : Text) : Text :=
  ((afterDrive path).reverse.takeWhile (!isSeparator ·)).reverse

/-- What stands before the basename, without the separators in between unless there is nothing but
separators behind the drive. -/
def parent (path : Text) : Text :=
  let head := ((afterDrive path).reverse.dropWhile (!isSeparator ·)).reverse
  drive path ++ if head.all isSeparator then head else Text.dropEndWhile isSeparator head

end BuildRecorder.Path.Windows
