import BuildRecorder.Log
import BuildRecorder.Terminal
import BuildRecorder.Version.Reader

/-!
# Required packages

The packages that a run relies on, with the least version of each, and the ways to check them: one
by one, by warnings in the log, or by a printed list.
-/

namespace BuildRecorder.Requirements

/-- The required packages with their least versions. -/
def packages : List (Text × Text) := [("colorama", "0.4.6"), ("packaging", "24.0")]

/-- The installed packages with their versions. -/
abbrev Installed := List (Text × Text)

structure Status where
  version : Option Text
  meets : Bool
deriving DecidableEq

def status (installed : Installed) (package minimum : Text) : Except Version.Invalid Status :=
  match installed.lookup package with
  | none => .ok ⟨none, false⟩
  | some version =>
    match Version.read version, Version.read minimum with
    | .ok v, .ok least => .ok ⟨some version, v.meets least⟩
    | .error fault, _ => .error fault
    | _, .error fault => .error fault

inductive Fault where
  | unknown (package : Text)
  | invalid (fault : Version.Invalid)
  | missing (package minimum : Text)
  | tooOld (package version minimum : Text)
deriving DecidableEq

def requirement (package minimum : Text) : Text := "'" ++ package ++ ">=" ++ minimum ++ "'"

def Fault.message : Fault → Text
  | .unknown package => "No version requirement specified for " ++ package
  | .invalid fault => fault.message
  | .missing package minimum =>
    package ++ " is not installed. Install with: pip install " ++ requirement package minimum
  | .tooOld package version minimum =>
    package ++ " " ++ version ++ " is too old. Version >=" ++ minimum ++
      " is required. Upgrade with: pip install --upgrade " ++ requirement package minimum

/-- Checks one package, by its required version if no other is given. A strict check refuses what is
missing or too old. -/
def check (installed : Installed) (package : Text) (minimum : Option Text) (strict : Bool) :
    Except Fault Status :=
  match minimum.or (packages.lookup package) with
  | none => .error (.unknown package)
  | some minimum =>
    match status installed package minimum with
    | .error fault => .error (.invalid fault)
    | .ok status =>
      match status.version with
      | none => if strict then .error (.missing package minimum) else .ok status
      | some version =>
        if strict && !status.meets then .error (.tooOld package version minimum) else .ok status

structure Checked where
  package : Text
  minimum : Text
  status : Status
deriving DecidableEq

/-- The packages that can be checked, in order, and the version number that cannot be read, if there
is one. -/
def checkEach (installed : Installed) :
    List (Text × Text) → List Checked × Option Version.Invalid
  | [] => ([], none)
  | (package, minimum) :: rest =>
    match status installed package minimum with
    | .error fault => ([], some fault)
    | .ok status =>
      let (later, fault) := checkEach installed rest
      (⟨package, minimum, status⟩ :: later, fault)

def Checked.warning? (checked : Checked) : Option Text :=
  match checked.status.version with
  | none => some (checked.package ++ " is not installed (need >=" ++ checked.minimum ++ ")")
  | some version =>
    if checked.status.meets then none
    else
      some (checked.package ++ " " ++ version ++ " is older than the required " ++ checked.minimum)

/-- Whether all requirements are met, and the warnings about those that are not. -/
def verify (installed : Installed) : Except Version.Invalid Bool × Log :=
  let (checked, fault) := checkEach installed packages
  let log := (checked.filterMap Checked.warning?).map
    fun message => ⟨.warning, .requirements, message⟩
  match fault with
  | some fault => (.error fault, log)
  | none => (.ok log.isEmpty, log)

def Checked.print (palette : Palette) (console : Console) (checked : Checked) : Console :=
  match checked.status.version with
  | none => console.notify palette .error false (checked.package ++ " not installed")
  | some version =>
    let found := checked.package ++ " " ++ version
    if checked.status.meets then console.notify palette .success false found
    else console.notify palette .error false (found ++ " (need >=" ++ checked.minimum ++ ")")

def advice : Text :=
  "Install missing packages with: pip install " ++
    Text.join " " (packages.map fun (package, minimum) => requirement package minimum) ++ "\n"

/-- Whether all requirements are met, with the printed status of each. -/
def printAll (palette : Palette) (installed : Installed) :
    Except Version.Invalid (Bool × Console) :=
  match checkEach installed packages with
  | (_, some fault) => .error fault
  | (checked, none) =>
    let console := checked.foldl (Checked.print palette) {}
    if checked.all (·.status.meets) then .ok (true, console)
    else .ok (false, console.printErr advice)

end BuildRecorder.Requirements
