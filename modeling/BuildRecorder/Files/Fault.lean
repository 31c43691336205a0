import BuildRecorder.Text.Quoted
import BuildRecorder.Text.Utf8

/-!
# Faults of the file system

What can go wrong when a file is opened or written, with the numbers and texts of the system.
-/

namespace BuildRecorder

inductive SystemProblem where
  | missing
  | notADirectory
  | isADirectory
  | noSpace
deriving DecidableEq

namespace SystemProblem

def number : SystemProblem → Nat
  | .missing => 2
  | .notADirectory => 20
  | .isADirectory => 21
  | .noSpace => 28

def text : SystemProblem → Text
  | .missing => "No such file or directory"
  | .notADirectory => "Not a directory"
  | .isADirectory => "Is a directory"
  | .noSpace => "No space left on device"

end SystemProblem

structure SystemFault where
  problem : SystemProblem
  path : Option Text
deriving DecidableEq

def SystemFault.message (fault : SystemFault) : Text :=
  let place : Text := match fault.path with
    | none => []
    | some path => ": " ++ path.quoted
  "[Errno " ++ Text.ofNat fault.problem.number ++ "] " ++ fault.problem.text ++ place

/-- Why a path cannot be opened: the system refuses it, it holds a NUL, or it is no file name at all
because it holds a surrogate. -/
inductive PathFault where
  | system (fault : SystemFault)
  | nul
  | unencodable (fault : Utf8.EncodeFault)
deriving DecidableEq

def PathFault.message : PathFault → Text
  | .system fault => fault.message
  | .nul => "embedded null byte"
  | .unencodable fault => fault.message

/-- Surrogates that stand for single bytes of a file name that is not UTF-8. -/
def CodePoint.isRawByte (c : CodePoint) : Bool := 0xDC80 ≤ c.val && c.val ≤ 0xDCFF

/-- The first surrogate that stands for no byte, with the surrogates after it. -/
def unencodableName? (position : Nat) : Text → Option Utf8.EncodeFault
  | [] => none
  | c :: rest =>
    if c.isSurrogate && !c.isRawByte then
      some ⟨position, c, (rest.takeWhile CodePoint.isSurrogate).length + 1⟩
    else unencodableName? (position + 1) rest

end BuildRecorder
