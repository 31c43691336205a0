import BuildRecorder.Arguments.Split
import BuildRecorder.Path.Canonical
import BuildRecorder.Text.Blank

/-!
# Finding the compiler in a command line

The compiler is the first argument, or all that stands before the first marker with a blank behind
it. The second way finds a path with spaces that is not quoted. By default the first argument is
tried, and the marker if the first argument does not name it.
-/

namespace BuildRecorder.Compiler

inductive Strategy where
  | auto
  | firstToken
  | marker
deriving DecidableEq

/-- The file name of the compiler, unless another one is asked for. -/
def defaultMarker : Text := "cl.exe"

inductive Refusal where
  | arguments (fault : Arguments.Fault)
  | emptyLine
  | markerMissing (marker line : Text)
  | compilerMissing (marker line : Text)
deriving DecidableEq

def Refusal.message : Refusal → Text
  | .arguments fault => fault.message
  | .emptyLine => "Empty compiler command line"
  | .markerMissing marker line => "Unexpected lack of " ++ marker ++ " in " ++ line.take 200
  | .compilerMissing marker line => "No compiler path before " ++ marker ++ " in " ++ line.take 200

def executableEnding : Text := ".exe"

/-- Whether a path names the marker, with or without `.exe`, in any case. -/
def namesMarker (argument marker : Text) : Bool :=
  let name := (Path.basename argument).lower
  let marker := marker.lower
  let stem :=
    if marker.endsWith executableEnding then marker.take (marker.length - executableEnding.length)
    else marker
  name = marker || name = stem

/-- Cuts a text behind the first marker that has a blank behind it. -/
def cutAtMarker (marker : Text) : Text → Option (Text × Text)
  | [] => none
  | c :: rest =>
    if Text.searchEq (marker ++ " ") ((c :: rest).take (marker.length + 1)) then
      some ((c :: rest).take marker.length, (c :: rest).drop marker.length)
    else (cutAtMarker marker rest).map fun (front, back) => (c :: front, back)

def trimQuotes (t : Text) : Text :=
  Text.dropEndWhile (· = '"') (t.dropWhile (· = '"'))

def locateFirst (line : Text) : Except Refusal (Text × Text) :=
  match Arguments.splitFirst line with
  | .error fault => .error (.arguments fault)
  | .ok (compiler, rest) => if compiler.isEmpty then .error .emptyLine else .ok (compiler, rest)

def locateMarker (marker line : Text) : Except Refusal (Text × Text) :=
  match cutAtMarker marker line with
  | none => .error (.markerMissing marker line)
  | some (front, back) =>
    let compiler := trimQuotes front.trim
    if compiler.isEmpty then .error (.compilerMissing marker line)
    else .ok (compiler, back.trimStart)

/-- The compiler, and the rest of the command line with its quoting untouched. -/
def locate (strategy : Strategy) (marker line : Text) : Except Refusal (Text × Text) :=
  match strategy with
  | .firstToken => locateFirst line
  | .marker => locateMarker marker line
  | .auto =>
    match Arguments.splitFirst line with
    | .error fault => .error (.arguments fault)
    | .ok (compiler, rest) =>
      if !compiler.isEmpty && namesMarker compiler marker then .ok (compiler, rest)
      else locateMarker marker line

structure NotSearchable where
  kind : Text
deriving DecidableEq

def NotSearchable.message (fault : NotSearchable) : Text :=
  "expected string or bytes-like object, got '" ++ fault.kind ++ "'"

inductive LineFault where
  | refused (refusal : Refusal)
  | notSearchable (fault : NotSearchable)
deriving DecidableEq

/-- The command line in a decoded value. A strategy that splits refuses any other value, one that
searches cannot work on it. -/
def lineOf (strategy : Strategy) : Json → Except LineFault Text
  | .text line => .ok line
  | value =>
    match strategy with
    | .marker => .error (.notSearchable ⟨value.kindName⟩)
    | _ => .error (.refused (.arguments (.notText value.kindName)))

end BuildRecorder.Compiler
