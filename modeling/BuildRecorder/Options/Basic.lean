import BuildRecorder.Text.Quoted

/-!
# Command line options

A grammar is a list of options, each with its names and with what follows it, and at most one
operand. Long names may be cut short as long as they stay unambiguous, short flags may be run
together, and a value may be attached to the name or follow it.
-/

namespace BuildRecorder.Options

/-- What follows an option: nothing, a value, or nothing because the run ends with it. A value may
be restricted to a list of choices. -/
inductive Arity where
  | flag
  | ends
  | value
  | choice (choices : List Text)
deriving DecidableEq

def Arity.takesValue : Arity → Bool
  | .value | .choice _ => true
  | _ => false

structure OptionSpec (κ : Type) where
  key : κ
  names : List Text
  arity : Arity

structure Grammar (κ : Type) where
  options : List (OptionSpec κ)
  takesOperand : Bool

/-- What is wrong with the arguments; options are named by all their names. -/
inductive Fault where
  | ambiguous (argument : Text) (names : List Text)
  | missingValue (names : List Text)
  | ignoredValue (names : List Text) (value : Text)
  | badChoice (names : List Text) (value : Text) (choices : List Text)
  | unrecognized (arguments : List Text)
deriving DecidableEq

def Fault.message : Fault → Text
  | .ambiguous argument names =>
    "ambiguous option: " ++ argument ++ " could match " ++ Text.join ", " names
  | .missingValue names => "argument " ++ Text.join "/" names ++ ": expected one argument"
  | .ignoredValue names value =>
    "argument " ++ Text.join "/" names ++ ": ignored explicit argument " ++ value.quoted
  | .badChoice names value choices =>
    "argument " ++ Text.join "/" names ++ ": invalid choice: " ++ value.quoted ++
      " (choose from " ++ Text.join ", " (choices.map Text.quoted) ++ ")"
  | .unrecognized arguments => "unrecognized arguments: " ++ Text.join " " arguments

inductive Role (κ : Type) where
  | operand
  | separator
  | unknown
  | option (spec : OptionSpec κ) (name : Text) (attached : Option Text)

namespace Grammar

variable {κ : Type}

def allNames (grammar : Grammar κ) : List (OptionSpec κ × Text) :=
  grammar.options.flatMap fun spec => spec.names.map fun name => (spec, name)

def named? (grammar : Grammar κ) (name : Text) : Option (OptionSpec κ) :=
  grammar.options.find? fun spec => spec.names.contains name

end Grammar

end BuildRecorder.Options
