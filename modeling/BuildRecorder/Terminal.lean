import BuildRecorder.Text.Basic

/-!
# Messages on a terminal

Messages are coloured with escape sequences, unless colours are turned off.
-/

namespace BuildRecorder

structure Palette where
  red : Text
  green : Text
  yellow : Text
  reset : Text
  bright : Text
deriving DecidableEq

namespace Palette

def sequence (code : Text) : Text := "\x1b[" ++ code ++ "m"

def ansi : Palette :=
  { red := sequence "31", green := sequence "32", yellow := sequence "33", reset := sequence "0"
    bright := sequence "1" }

def plain : Palette := { red := [], green := [], yellow := [], reset := [], bright := [] }

/-- A sequence by its name; any other text stands for itself. -/
def sequenceOf (palette : Palette) (name : Text) : Text :=
  if name = "RED" then palette.red
  else if name = "GREEN" then palette.green
  else if name = "YELLOW" then palette.yellow
  else if name = "RESET" then palette.reset
  else if name = "BRIGHT" then palette.bright
  else name

/-- A text in a colour and a style; without a colour the style has no effect. -/
def colored (palette : Palette) (text color style : Text) : Text :=
  if color.isEmpty then text else style ++ color ++ text ++ palette.reset

end Palette

/-- Whether to use colours: not if they are turned off, always if they are forced, else on a
terminal whose user has not opted out by a non-empty `NO_COLOR`. -/
def usesColor (terminal force off : Bool) (noColor : Option Text) : Bool :=
  !off && (force || (terminal && noColor.all List.isEmpty))

inductive Notice where
  | success
  | error
  | warning
deriving DecidableEq

namespace Notice

def label : Notice → Text
  | .success => "Success: "
  | .error => "Error: "
  | .warning => "Warning: "

def color (palette : Palette) : Notice → Text
  | .success => palette.green
  | .error => palette.red
  | .warning => palette.yellow

/-- Whether a notice has its label in front unless the caller says otherwise. -/
def isLabelled : Notice → Bool
  | .success => false
  | _ => true

def line (palette : Palette) (notice : Notice) (labelled : Bool) (text : Text) : Text :=
  let message := if labelled then notice.label ++ text else text
  palette.colored message (notice.color palette) [] ++ "\n"

end Notice

structure Console where
  out : Text := []
  err : Text := []
deriving DecidableEq

namespace Console

def printOut (console : Console) (t : Text) : Console := { console with out := console.out ++ t }

def printErr (console : Console) (t : Text) : Console := { console with err := console.err ++ t }

/-- Prints a notice where its kind belongs: success to the output, the others to the errors. -/
def notify (console : Console) (palette : Palette) (notice : Notice) (labelled : Bool)
    (text : Text) : Console :=
  let line := notice.line palette labelled text
  match notice with
  | .success => console.printOut line
  | _ => console.printErr line

end Console

end BuildRecorder
