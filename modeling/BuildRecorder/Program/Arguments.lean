import BuildRecorder.Compiler.Location
import BuildRecorder.Options.Reader
import BuildRecorder.Settings

/-!
# The arguments of the program

The options that the program knows and what they ask for.
-/

namespace BuildRecorder.Program

inductive Key where
  | help
  | parameters
  | output
  | task
  | mode
  | strategy
  | marker
  | noColor
  | verbose
  | version
deriving DecidableEq

def strategyNames : List (Text × Compiler.Strategy) :=
  [("auto", .auto), ("first-token", .firstToken), ("cl-marker", .marker)]

def grammar : Options.Grammar Key :=
  { options :=
      [ ⟨.help, ["-h", "--help"], .ends⟩,
        ⟨.parameters, ["--parameters", "-p"], .value⟩,
        ⟨.output, ["--output", "-o"], .value⟩,
        ⟨.task, ["--task"], .value⟩,
        ⟨.mode, ["--mode"], .choice [Mode.merge.name, Mode.stream.name]⟩,
        ⟨.strategy, ["--strategy"], .choice (strategyNames.map (·.1))⟩,
        ⟨.marker, ["--marker"], .value⟩,
        ⟨.noColor, ["--no-color"], .flag⟩,
        ⟨.verbose, ["--verbose", "-v"], .flag⟩,
        ⟨.version, ["--version"], .ends⟩ ]
    takesOperand := true }

structure Request where
  events : Text
  parameters : Text
  overrides : Settings.Overrides
  strategy : Compiler.Strategy
  marker : Text
  noColor : Bool
  verbose : Bool

/-- The operand that means the standard input. -/
def standardInput : Text := "-"

def Request.ofReading (reading : Options.Reading Key) : Request :=
  let text := fun key => (reading.value? key).getD []
  { events := reading.operand.getD standardInput
    parameters := text .parameters
    overrides := { outputPath := text .output, task := text .task, mode := text .mode }
    strategy := (strategyNames.lookup (text .strategy)).getD .auto
    marker := (reading.value? .marker).getD Compiler.defaultMarker
    noColor := reading.has .noColor
    verbose := reading.has .verbose }

end BuildRecorder.Program
