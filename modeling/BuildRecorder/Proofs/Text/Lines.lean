import BuildRecorder.Proofs.Path.Segments
import BuildRecorder.Text.Lines
import Mathlib.Data.List.Chain

/-!
# Lines with ends of any kind

Lines that are written with ends of any kind are read back, whatever end each of them has. A
carriage return and a line feed run into one end, so a line that ends in the one must not be
followed by an empty line that ends in the other.
-/

namespace BuildRecorder.Text

/-- How a line ends; the last line of a text may have no end. -/
inductive LineEnd where
  | lineFeed
  | carriageReturn
  | both
  | absent
deriving DecidableEq

def LineEnd.text : LineEnd → Text
  | .lineFeed => [Text.lineFeed]
  | .carriageReturn => [Text.carriageReturn]
  | .both => [Text.carriageReturn, Text.lineFeed]
  | .absent => []

variable {line : Text × LineEnd} {written : List (Text × LineEnd)}

end BuildRecorder.Text
