import BuildRecorder.Json.Reader

/-!
# Limits of reading JSON

The reader gives up a document whose containers nest too deep, or in which an integer has too many
digits. It does so at the place where that shows, so a fault in front of the place comes first and
what stands behind it does not count.
-/

namespace BuildRecorder.Json

/-- How many containers may be open at once, and how many digits an integer may have. -/
structure Limits where
  depth : Nat
  digits : Nat := 4300

inductive Overrun where
  | array
  | object
  | integer (allowed digits : Nat)
deriving DecidableEq

def Overrun.message : Overrun → Text
  | .array => "maximum recursion depth exceeded while decoding a JSON array from a unicode string"
  | .object =>
    "maximum recursion depth exceeded while decoding a JSON object from a unicode string"
  | .integer allowed digits =>
    "Exceeds the limit (" ++ Text.ofNat allowed ++
      " digits) for integer string conversion: value has " ++ Text.ofNat digits ++
      " digits; use sys.set_int_max_str_digits() to increase the limit"

/-- How many digits an integer is written with, its sign apart. -/
def digitCount (value : Int) : Nat := (Text.ofNat value.natAbs).length

/-- The limit that the start of a value exceeds inside of `opened` containers. -/
def Limits.exceeded? (limits : Limits) (opened : Nat) : Lexeme.Kind → Option Overrun
  | .beginArray => if limits.depth ≤ opened then some .array else none
  | .beginObject => if limits.depth ≤ opened then some .object else none
  | .scalar (.int value) =>
    let digits := digitCount value
    if limits.digits < digits then some (.integer limits.digits digits) else none
  | _ => none

namespace State

/-- The containers around the value that comes next, if a value may come next. -/
def around? : State → Option (List Frame)
  | .wantValue stack => some stack
  | .wantFirstItem stack => some (.array [] :: stack)
  | _ => none

def exceeded? (limits : Limits) (state : State) (kind : Lexeme.Kind) : Option Overrun :=
  state.around?.bind fun stack => limits.exceeded? stack.length kind

/-- The limit that reading some lexemes exceeds, unless they hold a fault in front of it. -/
def overrun? (limits : Limits) : State → List Lexeme → Option Overrun
  | _, [] => none
  | state, lexeme :: rest =>
    match state.exceeded? limits lexeme.kind with
    | some overrun => some overrun
    | none =>
      match step lexeme.position state lexeme.kind with
      | .ok next => overrun? limits next rest
      | .error _ => none

end State

/-- The limit that reading a document exceeds. -/
def overrun? (limits : Limits) (source : Text) : Option Overrun :=
  if source.head? = some byteOrderMark then none
  else State.overrun? limits (.wantValue []) (lexemes 0 source)

end BuildRecorder.Json
