import BuildRecorder.Json.Lexeme

/-!
# Reading JSON

A document is read lexeme by lexeme with the stack of containers that are still open. The first
lexeme that does not fit what is expected is the fault, reported with its line and column.
-/

namespace BuildRecorder.Json

/-- An open container that waits for a value: the items so far, last first, or the fields so far and
the name of the next one. -/
inductive Frame where
  | array (items : List Json)
  | object (fields : Fields) (name : Text)

inductive State where
  | wantValue (stack : List Frame)
  | wantFirstItem (stack : List Frame)
  | afterItem (items : List Json) (stack : List Frame)
  | wantFirstName (stack : List Frame)
  | wantName (fields : Fields) (stack : List Frame)
  | wantColon (fields : Fields) (name : Text) (stack : List Frame)
  | afterField (fields : Fields) (stack : List Frame)
  | done (value : Json)

namespace State

/-- A value has been read: it goes into the innermost open container. -/
def provide (value : Json) : List Frame → State
  | [] => .done value
  | .array items :: stack => .afterItem (value :: items) stack
  | .object fields name :: stack => .afterField (fields.put name value) stack

def stepValue (stack : List Frame) (position : Nat) : Lexeme.Kind → Except Trouble State
  | .beginArray => .ok (.wantFirstItem stack)
  | .beginObject => .ok (.wantFirstName stack)
  | .scalar value => .ok (provide value stack)
  | .text value => .ok (provide (.text value) stack)
  | .brokenText trouble => .error trouble
  | _ => .error ⟨.expectingValue, position⟩

def stepName (fields : Fields) (stack : List Frame) (position : Nat) :
    Lexeme.Kind → Except Trouble State
  | .text name => .ok (.wantColon fields name stack)
  | .brokenText trouble => .error trouble
  | _ => .error ⟨.expectingName, position⟩

def step (position : Nat) : State → Lexeme.Kind → Except Trouble State
  | .wantValue stack, kind => stepValue stack position kind
  | .wantFirstItem stack, .endArray => .ok (provide (.array []) stack)
  | .wantFirstItem stack, kind => stepValue (.array [] :: stack) position kind
  | .afterItem items stack, .comma => .ok (.wantValue (.array items :: stack))
  | .afterItem items stack, .endArray => .ok (provide (.array items.reverse) stack)
  | .afterItem _ _, _ => .error ⟨.expectingComma, position⟩
  | .wantFirstName stack, .endObject => .ok (provide (.object []) stack)
  | .wantFirstName stack, kind => stepName [] stack position kind
  | .wantName fields stack, kind => stepName fields stack position kind
  | .wantColon fields name stack, .colon => .ok (.wantValue (.object fields name :: stack))
  | .wantColon _ _ _, _ => .error ⟨.expectingColon, position⟩
  | .afterField fields stack, .comma => .ok (.wantName fields stack)
  | .afterField fields stack, .endObject => .ok (provide (.object fields) stack)
  | .afterField _ _, _ => .error ⟨.expectingComma, position⟩
  | .done _, _ => .error ⟨.extraData, position⟩

def run : State → List Lexeme → Except Trouble Json
  | .done value, [⟨.finish, _⟩] => .ok value
  | _, [] => .error ⟨.expectingValue, 0⟩
  | state, lexeme :: rest =>
    match step lexeme.position state lexeme.kind with
    | .ok next => run next rest
    | .error trouble => .error trouble

end State

/-- A problem with its place: the character counted from nought, the line and the column from
one. -/
structure Fault where
  problem : Problem
  position : Nat
  line : Nat
  column : Nat
deriving DecidableEq

def Fault.message (fault : Fault) : Text :=
  fault.problem.message ++ ": line " ++ Text.ofNat fault.line ++ " column " ++
    Text.ofNat fault.column ++ " (char " ++ Text.ofNat fault.position ++ ")"

/-- Finds line and column of a trouble; lines end at line feeds. -/
def Trouble.locate (trouble : Trouble) (source : Text) : Fault :=
  let before := source.take trouble.position
  let lineFeed : CodePoint := '\n'
  { problem := trouble.problem
    position := trouble.position
    line := before.count lineFeed + 1
    column := (before.reverse.takeWhile (· ≠ lineFeed)).length + 1 }

/-- A mark that some programs put in front of a document; it is refused. -/
def byteOrderMark : CodePoint := ⟨0xFEFF, by decide⟩

def read (source : Text) : Except Fault Json :=
  if source.head? = some byteOrderMark then .error (Trouble.locate ⟨.byteOrderMark, 0⟩ source)
  else
    match State.run (.wantValue []) (lexemes 0 source) with
    | .ok value => .ok value
    | .error trouble => .error (trouble.locate source)

end BuildRecorder.Json
