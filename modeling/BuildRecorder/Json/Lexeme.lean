import BuildRecorder.Json.Value

/-!
# The lexemes of a JSON document

A document is cut into brackets, separators, texts and the scalars `null`, `true`, `false`, the
numbers and the three non-finite ones. Each lexeme knows where it starts. A text that is not well
formed is a lexeme of its own, because whether its fault counts depends on what was expected there.
-/

namespace BuildRecorder.Json

inductive Problem where
  | byteOrderMark
  | expectingValue
  | expectingComma
  | expectingColon
  | expectingName
  | extraData
  | unterminatedText
  | controlCharacter
  | invalidEscape
  | invalidUnicodeEscape
deriving DecidableEq

def Problem.message : Problem → Text
  | .byteOrderMark => "Unexpected UTF-8 BOM (decode using utf-8-sig)"
  | .expectingValue => "Expecting value"
  | .expectingComma => "Expecting ',' delimiter"
  | .expectingColon => "Expecting ':' delimiter"
  | .expectingName => "Expecting property name enclosed in double quotes"
  | .extraData => "Extra data"
  | .unterminatedText => "Unterminated string starting at"
  | .controlCharacter => "Invalid control character at"
  | .invalidEscape => "Invalid \\escape"
  | .invalidUnicodeEscape => "Invalid \\uXXXX escape"

structure Trouble where
  problem : Problem
  position : Nat
deriving DecidableEq

namespace Lexeme

inductive Kind where
  | beginArray
  | endArray
  | beginObject
  | endObject
  | comma
  | colon
  | scalar (value : Json)
  | text (value : Text)
  | brokenText (trouble : Trouble)
  | unknown
  | finish

end Lexeme

structure Lexeme where
  kind : Lexeme.Kind
  position : Nat

def isSpace (c : CodePoint) : Bool := c = ' ' || c = '\t' || c = '\n' || c = '\r'

def hexDigit? (c : CodePoint) : Option Nat :=
  if c.isDigit then some c.digit
  else
    let letter := c.asciiLower
    if 0x61 ≤ letter.val ∧ letter.val ≤ 0x66 then some (letter.val - 0x61 + 10) else none

/-- The number that four hexadecimal digits at the front write; something must follow them. -/
def hexFour? : Text → Option Nat
  | a :: b :: c :: d :: _ :: _ => do
    let a ← hexDigit? a
    let b ← hexDigit? b
    let c ← hexDigit? c
    let d ← hexDigit? d
    return ((a * 16 + b) * 16 + c) * 16 + d
  | _ => none

/-- The second half of a surrogate pair, if an escape for one is at the front. -/
def lowHalf? : Text → Option Nat
  | a :: b :: rest =>
    if a = '\\' ∧ b = 'u' then
      (hexFour? rest).filter fun n => 0xDC00 ≤ n && n < 0xE000
    else none
  | _ => none

def simpleEscape? (c : CodePoint) : Option CodePoint :=
  if c = '"' ∨ c = '\\' ∨ c = '/' then some c
  else if c = 'b' then some (.ofNat 0x08)
  else if c = 'f' then some (.ofNat 0x0C)
  else if c = 'n' then some '\n'
  else if c = 'r' then some '\r'
  else if c = 't' then some '\t'
  else none

/-- Reads what follows a backslash: the character meant, and how many characters were used. Two
escapes that form a surrogate pair are one character. -/
def readEscape (opening position : Nat) : Text → Except Trouble (CodePoint × Nat)
  | [] => .error ⟨.unterminatedText, opening⟩
  | c :: rest =>
    if c = 'u' then
      match hexFour? rest with
      | none => .error ⟨.invalidUnicodeEscape, position⟩
      | some high =>
        if 0xD800 ≤ high ∧ high < 0xDC00 then
          match lowHalf? (rest.drop 4) with
          | some low => .ok (.ofNat (0x10000 + (high - 0xD800) * 0x400 + (low - 0xDC00)), 11)
          | none => .ok (.ofNat high, 5)
        else .ok (.ofNat high, 5)
    else match simpleEscape? c with
      | some d => .ok (d, 1)
      | none => .error ⟨.invalidEscape, position - 1⟩

/-- Reads a text up to its closing quote: the content, and how many characters were used. The
opening quote stood at `opening`, the next character stands at `position`. -/
def readText (opening position : Nat) (t : Text) : Except Trouble (Text × Nat) :=
  match t with
  | [] => .error ⟨.unterminatedText, opening⟩
  | c :: rest =>
    if c = '"' then .ok ([], 1)
    else if c = '\\' then
      match readEscape opening (position + 1) rest with
      | .error trouble => .error trouble
      | .ok (d, width) =>
        (readText opening (position + 1 + width) (rest.drop width)).map fun (content, used) =>
          (d :: content, used + width + 1)
    else if c.val < 0x20 then .error ⟨.controlCharacter, position⟩
    else
      (readText opening (position + 1) rest).map fun (content, used) => (c :: content, used + 1)
termination_by t.length
decreasing_by
  · simp only [List.length_drop, List.length_cons]
    omega
  · simp

def digitRun (t : Text) : Text := t.takeWhile CodePoint.isDigit

def fractionDigits : Text → Text
  | [] => []
  | c :: rest => if c = '.' then digitRun rest else []

/-- The exponent at the front, if it has digits: its value, and how many characters it takes. -/
def readExponent : Text → Option (Int × Nat)
  | mark :: c :: rest =>
    if mark = 'e' ∨ mark = 'E' then
      let signed := c = '+' ∨ c = '-'
      let digits := if signed then digitRun rest else digitRun (c :: rest)
      let size : Int := Text.digitsValue digits
      if digits.isEmpty then none
      else some (if c = '-' then -size else size, digits.length + if signed then 2 else 1)
    else none
  | _ => none

/-- Reads a number without its sign: its value, and how many characters were used. A leading zero
stands alone; a fraction or an exponent counts only if it has digits. -/
def readMagnitude (negative : Bool) (t : Text) : Option (Json × Nat) :=
  let run := digitRun t
  let whole := if run.head? = some (CodePoint.ofChar '0') then run.take 1 else run
  if whole.isEmpty then none
  else
    let fraction := fractionDigits (t.drop whole.length)
    let width := whole.length + if fraction.isEmpty then 0 else fraction.length + 1
    let decimal := fun (exponent : Int) =>
      Json.float (.ofDecimal negative (Text.digitsValue (whole ++ fraction))
        (exponent - fraction.length))
    match readExponent (t.drop width) with
    | some (exponent, used) => some (decimal exponent, width + used)
    | none =>
      if fraction.isEmpty then
        let value : Int := Text.digitsValue whole
        some (.int (if negative then -value else value), width)
      else some (decimal 0, width)

/-- Reads the scalar that starts with `c`; the width does not count `c`. -/
def readScalar (c : CodePoint) (rest : Text) : Option (Json × Nat) :=
  let word := fun (tail : Text) (value : Json) =>
    if rest.startsWith tail then some (value, tail.length) else none
  if c = 'n' then word "ull" .null
  else if c = 't' then word "rue" (.bool true)
  else if c = 'f' then word "alse" (.bool false)
  else if c = 'N' then word "aN" (.float .nan)
  else if c = 'I' then word "nfinity" (.float (.infinity false))
  else if c = '-' then
    (word "Infinity" (.float (.infinity true))).or (readMagnitude true rest)
  else (readMagnitude false (c :: rest)).map fun (value, width) => (value, width - 1)

/-- The lexeme that starts with `c` at `position`; the width does not count `c`. -/
def readLexeme (position : Nat) (c : CodePoint) (rest : Text) : Lexeme.Kind × Nat :=
  if c = '"' then
    match readText position (position + 1) rest with
    | .ok (content, width) => (.text content, width)
    | .error trouble => (.brokenText trouble, 0)
  else if c = '[' then (.beginArray, 0)
  else if c = ']' then (.endArray, 0)
  else if c = '\x7b' then (.beginObject, 0)
  else if c = '\x7d' then (.endObject, 0)
  else if c = ',' then (.comma, 0)
  else if c = ':' then (.colon, 0)
  else match readScalar c rest with
    | some (value, width) => (.scalar value, width)
    | none => (.unknown, 0)

/-- Cuts a document whose first character stands at `position`. Nothing can be read past a lexeme
that is not well formed, so the list ends there. -/
def lexemes (position : Nat) (t : Text) : List Lexeme :=
  match t with
  | [] => [⟨.finish, position⟩]
  | c :: rest =>
    if isSpace c then lexemes (position + 1) rest
    else
      match readLexeme position c rest with
      | (.unknown, _) => [⟨.unknown, position⟩]
      | (.brokenText trouble, _) => [⟨.brokenText trouble, position⟩]
      | (kind, width) => ⟨kind, position⟩ :: lexemes (position + 1 + width) (rest.drop width)
termination_by t.length
decreasing_by
  · simp
  · simp only [List.length_drop, List.length_cons]
    omega

end BuildRecorder.Json
