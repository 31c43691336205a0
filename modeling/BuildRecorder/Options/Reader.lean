import BuildRecorder.Options.Basic
import BuildRecorder.Text.Digit

/-!
# Reading command line options

First every argument is taken for an operand, an option or the separator `--`, behind which there
are operands only. Then the arguments are used up from left to right. An option that ends the run
does so at once, so nothing behind it is looked at, except that an ambiguous option is refused first
of all.
-/

namespace BuildRecorder.Options

variable {κ : Type}

def dash : CodePoint := '-'

def equalsSign : CodePoint := '='

def separator : Text := "--"

/-- The part of an argument before the first equals sign, and the part behind it if there is one. -/
def splitAttached (argument : Text) : Text × Option Text :=
  let name := argument.takeWhile (· ≠ equalsSign)
  (name, if name.length < argument.length then some (argument.drop (name.length + 1)) else none)

/-- The options that an argument may stand for, by the start of a long name or by a short name with
something attached to it. -/
def candidates (grammar : Grammar κ) (argument : Text) :
    List (OptionSpec κ × Text × Option Text) :=
  if argument.startsWith separator then
    let (start, attached) := splitAttached argument
    (grammar.allNames.filter fun (_, name) => name.startsWith start).map fun (spec, name) =>
      (spec, name, attached)
  else
    grammar.allNames.filterMap fun (spec, name) =>
      if name = argument.take 2 then some (spec, name, some (argument.drop 2))
      else if name.startsWith argument then some (spec, name, none)
      else none

/-- Negative numbers, in the digits of any script, are operands. A line end behind the number does
not count. -/
def isNegativeNumber : Text → Bool
  | [] => false
  | c :: digits =>
    let digits := if digits.getLast? = some (CodePoint.ofChar '\n') then digits.dropLast else digits
    let fraction := (digits.dropWhile CodePoint.isAnyDigit).drop 1
    c = dash &&
      ((!digits.isEmpty && digits.all CodePoint.isAnyDigit) ||
        ((digits.dropWhile CodePoint.isAnyDigit).head? = some (CodePoint.ofChar '.') &&
          !fraction.isEmpty && fraction.all CodePoint.isAnyDigit))

def roleOf (grammar : Grammar κ) (argument : Text) : Except Fault (Role κ) :=
  if argument.head? ≠ some dash then .ok .operand
  else if argument = separator then .ok .separator
  else
    match grammar.named? argument with
    | some spec => .ok (.option spec argument none)
    | none =>
      let (name, attached) := splitAttached argument
      if argument.length = 1 then .ok .operand
      else
        match attached.bind fun _ => grammar.named? name with
        | some spec => .ok (.option spec name attached)
        | none =>
          match candidates grammar argument with
          | [(spec, name, attached)] => .ok (.option spec name attached)
          | [] =>
            if isNegativeNumber argument || argument.any (· = ' ') then .ok .operand
            else .ok .unknown
          | several => .error (.ambiguous argument (several.map fun (_, name, _) => name))

def rolesOf (grammar : Grammar κ) : List Text → Except Fault (List (Text × Role κ))
  | [] => .ok []
  | argument :: rest =>
    match roleOf grammar argument with
    | .error fault => .error fault
    | .ok .separator => .ok ((argument, .separator) :: rest.map fun operand => (operand, .operand))
    | .ok role => (rolesOf grammar rest).map ((argument, role) :: ·)

structure Hit (κ : Type) where
  spec : OptionSpec κ
  value : Option Text := none

/-- The options of a run of short flags, of which the first has been read and `tail` is attached to
it, and whether the last of them still waits for its value. -/
def cluster (grammar : Grammar κ) (spec : OptionSpec κ) :
    (tail : Text) → Except Fault (List (Hit κ) × Option (OptionSpec κ))
  | [] =>
    if spec.arity.takesValue then .ok ([], some spec) else .ok ([⟨spec, none⟩], none)
  | c :: rest =>
    if spec.arity.takesValue then .ok ([⟨spec, some (c :: rest)⟩], none)
    else
      match grammar.named? [dash, c] with
      | none => .error (.ignoredValue spec.names (c :: rest))
      | some next =>
        match cluster grammar next rest with
        | .error fault => .error fault
        | .ok (hits, waiting) => .ok (⟨spec, none⟩ :: hits, waiting)

def hitsOf (grammar : Grammar κ) (spec : OptionSpec κ) (name : Text) (attached : Option Text) :
    Except Fault (List (Hit κ) × Option (OptionSpec κ)) :=
  match attached with
  | none => cluster grammar spec []
  | some value =>
    if spec.arity.takesValue then .ok ([⟨spec, some value⟩], none)
    else if name.startsWith separator || value.isEmpty then .error (.ignoredValue spec.names value)
    else cluster grammar spec value

structure Reading (κ : Type) where
  values : List (κ × Text) := []
  flags : List κ := []
  operand : Option Text := none
  extras : List Text := []
deriving DecidableEq

inductive Halt (κ : Type) where
  | fault (fault : Fault)
  | ends (key : κ)

/-- Notes the value of an option. One that is just the separator takes back what was noted
before. -/
def Reading.note [DecidableEq κ] (reading : Reading κ) (key : κ) (value : Text) : Reading κ :=
  if value = separator then { reading with values := reading.values.filter (·.1 ≠ key) }
  else { reading with values := (key, value) :: reading.values }

def act [DecidableEq κ] (reading : Reading κ) : List (Hit κ) → Except (Halt κ) (Reading κ)
  | [] => .ok reading
  | ⟨spec, value⟩ :: hits =>
    match spec.arity, value with
    | .ends, _ => .error (.ends spec.key)
    | .choice choices, some value =>
      if value = separator || choices.contains value then act (reading.note spec.key value) hits
      else .error (.fault (.badChoice spec.names value choices))
    | .value, some value => act (reading.note spec.key value) hits
    | _, _ => act { reading with flags := spec.key :: reading.flags } hits

/-- Uses up the arguments from left to right. The separator counts for nothing next to the operand
that it guards, else it is an argument too many. -/
def readRoles [DecidableEq κ] (grammar : Grammar κ) (reading : Reading κ) :
    List (Text × Role κ) → Except (Halt κ) (Reading κ)
  | [] => .ok reading
  | (argument, .operand) :: rest =>
    if grammar.takesOperand && reading.operand.isNone then
      let reading := { reading with operand := some argument }
      match rest with
      | (_, .separator) :: rest => readRoles grammar reading rest
      | rest => readRoles grammar reading rest
    else readRoles grammar { reading with extras := reading.extras ++ [argument] } rest
  | (argument, .separator) :: rest =>
    if grammar.takesOperand && reading.operand.isNone then readRoles grammar reading rest
    else readRoles grammar { reading with extras := reading.extras ++ [argument] } rest
  | (argument, .unknown) :: rest =>
    readRoles grammar { reading with extras := reading.extras ++ [argument] } rest
  | (_, .option spec name attached) :: rest =>
    match hitsOf grammar spec name attached with
    | .error fault => .error (.fault fault)
    | .ok (hits, none) =>
      match act reading hits with
      | .error halt => .error halt
      | .ok reading => readRoles grammar reading rest
    | .ok (hits, some waiting) =>
      match rest with
      | (value, .operand) :: rest =>
        match act reading (hits ++ [⟨waiting, some value⟩]) with
        | .error halt => .error halt
        | .ok reading => readRoles grammar reading rest
      | _ => .error (.fault (.missingValue waiting.names))

def read [DecidableEq κ] (grammar : Grammar κ) (arguments : List Text) :
    Except (Halt κ) (Reading κ) :=
  match rolesOf grammar arguments with
  | .error fault => .error (.fault fault)
  | .ok roles =>
    match readRoles grammar {} roles with
    | .error halt => .error halt
    | .ok reading =>
      if reading.extras.isEmpty then .ok reading
      else .error (.fault (.unrecognized reading.extras))

def Reading.value? [BEq κ] (reading : Reading κ) (key : κ) : Option Text :=
  reading.values.lookup key

def Reading.has [BEq κ] (reading : Reading κ) (key : κ) : Bool := reading.flags.contains key

end BuildRecorder.Options
