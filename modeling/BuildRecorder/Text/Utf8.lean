import BuildRecorder.Text.Basic

/-!
# UTF-8

Decoding refuses a text at its first byte that begins no well-formed sequence and reports how far
the sequence was acceptable. Encoding refuses lone surrogates and reports the first run of them.
-/

namespace BuildRecorder

abbrev Bytes := List UInt8

namespace Utf8

inductive Reason where
  | invalidStart
  | invalidContinuation
  | unexpectedEnd
deriving DecidableEq

def Reason.message : Reason → Text
  | .invalidStart => "invalid start byte"
  | .invalidContinuation => "invalid continuation byte"
  | .unexpectedEnd => "unexpected end of data"

/-- A sequence that is not well formed: where it starts, its first byte, and how many of its bytes
were acceptable. -/
structure DecodeFault where
  start : Nat
  lead : UInt8
  accepted : Nat
  reason : Reason
deriving DecidableEq

def DecodeFault.message (fault : DecodeFault) : Text :=
  let place : Text :=
    if fault.accepted ≤ 1 then
      "byte 0x" ++ Text.hex 2 fault.lead.toNat ++ " in position " ++ Text.ofNat fault.start
    else
      "bytes in position " ++ Text.ofNat fault.start ++ "-" ++
        Text.ofNat (fault.start + fault.accepted - 1)
  "'utf-8' codec can't decode " ++ place ++ ": " ++ fault.reason.message

def isContinuation (b : UInt8) : Bool := 0x80 ≤ b && b < 0xC0

/-- The second bytes that may follow the first byte of a sequence of three or four: overlong forms,
surrogates and values past the last code point are ruled out here. -/
def mayFollow (lead second : UInt8) : Bool :=
  isContinuation second &&
    (lead != 0xE0 || 0xA0 ≤ second) && (lead != 0xED || second < 0xA0) &&
    (lead != 0xF0 || 0x90 ≤ second) && (lead != 0xF4 || second < 0x90)

def payload (b : UInt8) : Nat := b.toNat % 64

/-- Decodes bytes of which the first stands at `position`. -/
def decodeFrom (position : Nat) : Bytes → Except DecodeFault Text
  | [] => .ok []
  | a :: rest =>
    let refuse := fun accepted reason => .error ⟨position, a, accepted, reason⟩
    if a < 0x80 then (decodeFrom (position + 1) rest).map (.ofNat a.toNat :: ·)
    else if a < 0xC2 ∨ 0xF5 ≤ a then refuse 1 .invalidStart
    else match rest with
      | [] => refuse 1 .unexpectedEnd
      | b :: rest =>
        if a < 0xE0 then
          if isContinuation b then
            (decodeFrom (position + 2) rest).map (.ofNat (a.toNat % 32 * 64 + payload b) :: ·)
          else refuse 1 .invalidContinuation
        else if !mayFollow a b then refuse 1 .invalidContinuation
        else match rest with
          | [] => refuse 2 .unexpectedEnd
          | c :: rest =>
            if !isContinuation c then refuse 2 .invalidContinuation
            else if a < 0xF0 then
              (decodeFrom (position + 3) rest).map
                (.ofNat ((a.toNat % 16 * 64 + payload b) * 64 + payload c) :: ·)
            else match rest with
              | [] => refuse 3 .unexpectedEnd
              | d :: rest =>
                if !isContinuation d then refuse 3 .invalidContinuation
                else
                  (decodeFrom (position + 4) rest).map
                    (.ofNat (((a.toNat % 8 * 64 + payload b) * 64 + payload c) * 64 + payload d)
                      :: ·)

def decode (bytes : Bytes) : Except DecodeFault Text := decodeFrom 0 bytes

/-- A run of surrogates: where it starts, its first character, and its length. -/
structure EncodeFault where
  start : Nat
  first : CodePoint
  count : Nat
deriving DecidableEq

def EncodeFault.message (fault : EncodeFault) : Text :=
  let place : Text :=
    if fault.count ≤ 1 then
      "character '\\u" ++ Text.hex 4 fault.first.val ++ "' in position " ++ Text.ofNat fault.start
    else
      "characters in position " ++ Text.ofNat fault.start ++ "-" ++
        Text.ofNat (fault.start + fault.count - 1)
  "'utf-8' codec can't encode " ++ place ++ ": surrogates not allowed"

/-- The first run of surrogates in a text whose first character stands at `position`. -/
def surrogateRun? (position : Nat) : Text → Option EncodeFault
  | [] => none
  | c :: rest =>
    if c.isSurrogate then
      some ⟨position, c, (rest.takeWhile CodePoint.isSurrogate).length + 1⟩
    else surrogateRun? (position + 1) rest

def encodeChar (c : CodePoint) : Bytes :=
  let tail := fun n => UInt8.ofNat (0x80 + n % 64)
  if c.val < 0x80 then [UInt8.ofNat c.val]
  else if c.val < 0x800 then [UInt8.ofNat (0xC0 + c.val / 64), tail c.val]
  else if c.val < 0x10000 then
    [UInt8.ofNat (0xE0 + c.val / 4096), tail (c.val / 64), tail c.val]
  else
    [UInt8.ofNat (0xF0 + c.val / 262144), tail (c.val / 4096), tail (c.val / 64), tail c.val]

def encode (t : Text) : Except EncodeFault Bytes :=
  match surrogateRun? 0 t with
  | some fault => .error fault
  | none => .ok (t.flatMap encodeChar)

theorem surrogateRun?_eq_none_iff (position : Nat) (t : Text) :
    surrogateRun? position t = none ↔ ∀ c ∈ t, c.isSurrogate = false := by
  induction t generalizing position with
  | nil => simp [surrogateRun?]
  | cons c rest ih =>
    by_cases h : c.isSurrogate <;> simp [surrogateRun?, h, ih]

end Utf8

end BuildRecorder
