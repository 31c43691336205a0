import BuildRecorder.Path.Segments

/-!
# Paths with slashes

A path is absolute if it starts with a slash. Exactly two leading slashes are a root of their own,
three or more count as one.
-/

namespace BuildRecorder.Path.Posix

def slash : CodePoint := '/'

def isSeparator (c : CodePoint) : Bool := c = slash

def isAbsolute (path : Text) : Bool := path.head? = some slash

def join (base path : Text) : Text :=
  if isAbsolute path then path
  else if base.isEmpty || base.getLast? = some slash then base ++ path
  else base ++ slash :: path

/-- The leading slashes that are significant. -/
def root (path : Text) : Text :=
  match (path.takeWhile isSeparator).length with
  | 0 => []
  | 2 => [slash, slash]
  | _ => [slash]

def normalize (path : Text) : Text :=
  let segments := resolve (isAbsolute path) (path.splitOn isSeparator)
  let result := root path ++ Text.join [slash] segments
  if result.isEmpty then current else result

def basename (path : Text) : Text := (path.reverse.takeWhile (!isSeparator ·)).reverse

/-- What stands before the basename, without the slashes in between unless it is all slashes. -/
def parent (path : Text) : Text :=
  let head := (path.reverse.dropWhile (!isSeparator ·)).reverse
  if head.all isSeparator then head else Text.dropEndWhile isSeparator head

end BuildRecorder.Path.Posix
