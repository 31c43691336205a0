import BuildRecorder.Text.Blank
import BuildRecorder.Text.Quoted
import BuildRecorder.Version.Basic

/-!
# Reading version numbers

`[v][epoch!]release[pre][post][dev][+label]`, in any case and with white space around it. The parts
have several spellings, and a separator may stand before a part and before its number.
-/

namespace BuildRecorder.Version

structure Invalid where
  source : Text
deriving DecidableEq

def Invalid.message (fault : Invalid) : Text := "Invalid version: " ++ fault.source.quoted

def isSeparator (c : CodePoint) : Bool := c = '-' || c = '_' || c = '.'

def dropSeparator : Text → Text
  | [] => []
  | c :: rest => if isSeparator c then rest else c :: rest

/-- A run of digits and the number it writes, if there is one. -/
def readNumber (t : Text) : Option Nat × Text :=
  let run := t.takeWhile CodePoint.isDigit
  (if run.isEmpty then none else some (Text.digitsValue run), t.drop run.length)

/-- One of several words, the first that is at the front, with what follows it. -/
def readWord (words : List (Text × α)) (t : Text) : Option (α × Text) :=
  (words.find? fun (word, _) => t.startsWith word).map fun (word, a) => (a, t.drop word.length)

/-- A part of a version: a word, perhaps behind a separator, and its number, perhaps behind another
one. Without digits the number is nought. -/
def readPart (words : List (Text × α)) (t : Text) : Option (α × Nat) × Text :=
  match readWord words (dropSeparator t) with
  | none => (none, t)
  | some (a, rest) =>
    let (number, rest) := readNumber (dropSeparator rest)
    (some (a, number.getD 0), rest)

def preWords : List (Text × PreKind) :=
  [("alpha", .alpha), ("a", .alpha), ("beta", .beta), ("b", .beta), ("preview", .candidate),
    ("pre", .candidate), ("c", .candidate), ("rc", .candidate)]

def postWords : List (Text × Unit) := [("post", ()), ("rev", ()), ("r", ())]

def devWords : List (Text × Unit) := [("dev", ())]

/-- A post-release: a number behind a hyphen, or a part of its own. -/
def readPost (t : Text) : Option Nat × Text :=
  let part := readPart postWords t
  let spelled := (part.1.map (·.2), part.2)
  match t with
  | [] => spelled
  | c :: rest =>
    match readNumber rest with
    | (some n, after) => if c = '-' then (some n, after) else spelled
    | (none, _) => spelled

def readRelease (t : Text) : List Nat × Text :=
  let run := t.takeWhile fun c : CodePoint => c.isDigit || c = '.'
  let pieces := (Text.splitOn (· = '.') run).takeWhile (!·.isEmpty)
  (pieces.map Text.digitsValue, t.drop (Text.join "." pieces).length)

def isLabelChar (c : CodePoint) : Bool := c.isDigit || c.isAsciiLetter

/-- A label behind a plus sign, which reaches up to the end. -/
def readLabel : Text → Option (Option (List LocalPart))
  | [] => some none
  | c :: rest =>
    let parts := Text.splitOn isSeparator rest
    if c = '+' ∧ parts.all fun part => !part.isEmpty && part.all isLabelChar then
      some <| some <| parts.map fun part =>
        if part.all CodePoint.isDigit then .number (Text.digitsValue part) else .word part
    else none

/-- An epoch: a number with an exclamation mark behind it. -/
def readEpoch (t : Text) : Nat × Text :=
  match readNumber t with
  | (some epoch, c :: rest) => if c = '!' then (epoch, rest) else (0, t)
  | _ => (0, t)

def read (source : Text) : Except Invalid Version :=
  let lowered : Text := source.trim.map CodePoint.asciiLower
  let t := if lowered.startsWith "v" then lowered.drop 1 else lowered
  let (epoch, t) := readEpoch t
  let (release, t) := readRelease t
  let (pre, t) := readPart preWords t
  let (post, t) := readPost t
  let (dev, t) := readPart devWords t
  match release, readLabel t with
  | _ :: _, some label => .ok { epoch, release, pre, post, dev := dev.map (·.2), label }
  | _, _ => .error ⟨source⟩

end BuildRecorder.Version
