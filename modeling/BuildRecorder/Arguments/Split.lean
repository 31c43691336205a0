import BuildRecorder.Json.Value

/-!
# Splitting a command line into arguments

Build tools report a command line as one text, quoted by the conventions of the Microsoft C runtime:
spaces and tabs separate arguments unless they stand inside double quotes; `2n` backslashes before a
quote are `n` backslashes, and the quote opens or closes a quoted region; `2n + 1` of them are `n`
backslashes and the quote itself; backslashes elsewhere are literal; two quotes inside a quoted
region are one quote; a region that is not closed runs to the end.
-/

namespace BuildRecorder.Arguments

def isSeparator (c : CodePoint) : Bool := c = ' ' || c = '\t'

def backslash : CodePoint := '\\'

def quote : CodePoint := '"'

def backslashes (n : Nat) : Text := List.replicate n backslash

def prepend (start : Text) (read : Text × Text) : Text × Text := (start ++ read.1, read.2)

@[simp] theorem prepend_fst (start : Text) (read : Text × Text) :
    (prepend start read).1 = start ++ read.1 := rfl

@[simp] theorem prepend_snd (start : Text) (read : Text × Text) :
    (prepend start read).2 = read.2 := rfl

/-- How many backslashes stand at the front. -/
def backslashRun (t : Text) : Nat := (t.takeWhile (· = backslash)).length

def afterBackslashes (t : Text) : Text := t.dropWhile (· = backslash)

theorem length_afterBackslashes_le (t : Text) : (afterBackslashes t).length ≤ t.length :=
  (List.dropWhile_sublist _).length_le

/-- Reads the rest of an argument, inside or outside quotes: its characters, and what follows it. -/
def readArgument (quoted : Bool) (t : Text) : Text × Text :=
  match t with
  | [] => ([], [])
  | c :: rest =>
    if c = backslash then
      if (afterBackslashes rest).head? = some quote then
        if (backslashRun rest + 1) % 2 = 1 then
          prepend (backslashes ((backslashRun rest + 1) / 2) ++ [quote])
            (readArgument quoted ((afterBackslashes rest).drop 1))
        else
          prepend (backslashes ((backslashRun rest + 1) / 2))
            (readArgument quoted (afterBackslashes rest))
      else
        prepend (backslashes (backslashRun rest + 1)) (readArgument quoted (afterBackslashes rest))
    else if c = quote then
      if quoted && rest.head? = some quote then
        prepend [quote] (readArgument true (rest.drop 1))
      else readArgument (!quoted) rest
    else if !quoted && isSeparator c then ([], c :: rest)
    else prepend [c] (readArgument quoted rest)
termination_by t.length
decreasing_by
  all_goals
    have := length_afterBackslashes_le rest
    simp only [List.length_drop, List.length_cons]
    omega

theorem length_readArgument_le (quoted : Bool) (t : Text) :
    (readArgument quoted t).2.length ≤ t.length := by
  fun_induction readArgument quoted t <;>
    simp_all only [prepend_snd, List.length_nil, List.length_cons, List.length_drop] <;>
    grind [length_afterBackslashes_le]

theorem length_readArgument_lt {c : CodePoint} (rest : Text) (hc : isSeparator c = false) :
    (readArgument false (c :: rest)).2.length < (c :: rest).length := by
  have hafter := length_afterBackslashes_le rest
  rw [readArgument]
  split
  · split
    · split
      · have := length_readArgument_le false ((afterBackslashes rest).drop 1)
        simp only [prepend_snd, List.length_cons, List.length_drop] at *
        omega
      · have := length_readArgument_le false (afterBackslashes rest)
        simp only [prepend_snd, List.length_cons] at *
        omega
    · have := length_readArgument_le false (afterBackslashes rest)
      simp only [prepend_snd, List.length_cons] at *
      omega
  · split
    · have := length_readArgument_le true rest
      simp only [Bool.false_and, Bool.false_eq_true, if_false, Bool.not_false, List.length_cons]
      omega
    · have := length_readArgument_le false rest
      simp only [hc, Bool.and_false, Bool.false_eq_true, if_false, prepend_snd, List.length_cons]
      omega

/-- The arguments in order, each with what follows it. -/
def scan (t : Text) : List (Text × Text) :=
  match _h : t.dropWhile isSeparator with
  | [] => []
  | c :: rest => readArgument false (c :: rest) :: scan (readArgument false (c :: rest)).2
termination_by t.length
decreasing_by
  have hle := (List.dropWhile_sublist (p := isSeparator) (l := t)).length_le
  have hc : isSeparator c = false := by
    have := List.head?_dropWhile_not isSeparator t
    simpa [_h] using this
  have := length_readArgument_lt rest hc
  rw [_h] at hle
  omega

inductive Fault where
  | notText (kind : Text)
  | nul (line : Text)
deriving DecidableEq

def Fault.message : Fault → Text
  | .notText kind => "Command line must be a string, got " ++ kind
  | .nul line => "Command line contains a NUL character: " ++ Text.quoted (line.take 200)

/-- No program can be started with an argument that holds a NUL. -/
def validate (line : Text) : Except Fault Unit :=
  if line.any (· = CodePoint.nul) then .error (.nul line) else .ok ()

def split (line : Text) : Except Fault (List Text) := do
  validate line
  return (scan line).map (·.1)

/-- The first argument, and the rest of the line with its quoting untouched. -/
def splitFirst (line : Text) : Except Fault (Text × Text) := do
  validate line
  match scan line with
  | [] => return ([], [])
  | (argument, rest) :: _ => return (argument, rest.dropWhile isSeparator)

/-- Command lines come from decoded events, where anything may stand in their place. -/
def lineOf : Json → Except Fault Text
  | .text line => .ok line
  | value => .error (.notText value.kindName)

end BuildRecorder.Arguments
