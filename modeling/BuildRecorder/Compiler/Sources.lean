import BuildRecorder.Arguments.Join
import BuildRecorder.Log
import BuildRecorder.Text.Case

/-!
# Source files among the arguments of a compiler

The part of the option grammar of `cl` that decides which arguments name source files. Some options
take the next argument as their value, `/Tc` and `/Tp` name one source, `/TC` and `/TP` turn every
bare argument into a source, and `/link` leaves all that follows to the linker.
-/

namespace BuildRecorder.Compiler

inductive Role where
  | response
  | bare
  | takesValue
  | takesSource
  | holdsSource (source : Text)
  | allSources
  | link
  | other
deriving DecidableEq

/-- Options whose value is the next argument. -/
def valueOptions : List Text :=
  ["D", "I", "F", "U", "FI", "FU", "analyze:log", "analyze:stacksize", "analyze:max_paths",
    "analyze:ruleset", "analyze:plugin"]

/-- Options that name a source. -/
def sourceOptions : List Text := ["Tc", "Tp"]

/-- Options that turn every bare argument into a source. -/
def allSourcesOptions : List Text := ["TC", "TP"]

def linkOption : Text := "link"

def isOptionMark (c : CodePoint) : Bool := c = '/' || c = '-'

def optionRole (name : Text) : Role :=
  if name ∈ valueOptions then .takesValue
  else if name ∈ sourceOptions then .takesSource
  else if name.take 2 ∈ sourceOptions then .holdsSource (name.drop 2)
  else if name ∈ allSourcesOptions then .allSources
  else if name = linkOption then .link
  else .other

def roleOf : Text → Role
  | [] => .bare
  | c :: name => if isOptionMark c then optionRole name else if c = '@' then .response else .bare

inductive Finding where
  | response (argument : Text)
  | bare (argument : Text)
  | source (argument : Text)
  | allSources
  | link (argument : Text) (ignored : Nat)
deriving DecidableEq

def findings : List Text → List Finding
  | [] => []
  | argument :: rest =>
    match roleOf argument with
    | .response => .response argument :: findings rest
    | .bare => .bare argument :: findings rest
    | .takesValue =>
      match rest with
      | [] => []
      | _ :: rest => findings rest
    | .takesSource =>
      match rest with
      | [] => []
      | source :: rest => .source source :: findings rest
    | .holdsSource source => .source source :: findings rest
    | .allSources => .allSources :: findings rest
    | .link => [.link argument rest.length]
    | .other => findings rest

def sourceExtensions : List Text := ["c", "cxx", "cpp"]

def extension? (name : Text) : Option Text :=
  if name.any (· = '.') then
    some (name.reverse.takeWhile fun c : CodePoint => c ≠ '.').reverse
  else none

def isSourceFile (name : Text) : Bool := (extension? name).any fun e => e.lower ∈ sourceExtensions

def forcedSources (found : List Finding) : List Text :=
  found.filterMap fun
    | .source argument => some argument
    | _ => none

def bareArguments (found : List Finding) : List Text :=
  found.filterMap fun
    | .bare argument => some argument
    | _ => none

def acceptsBare (found : List Finding) (argument : Text) : Bool :=
  found.contains .allSources || isSourceFile argument

/-- The sources among the arguments of a compiler, which itself is not among them: first those that
options name, then the bare arguments that are sources. -/
def sources (arguments : List Text) : List Text :=
  let found := findings arguments
  forcedSources found ++ (bareArguments found).filter (acceptsBare found)

def sourcesLog (arguments : List Text) : Log :=
  let found := findings arguments
  let onTheWay : List Text := found.filterMap fun
    | .response argument => some ("Ignoring response file: " ++ argument)
    | .link argument ignored =>
      some ("Stopping at " ++ argument ++ ", " ++ Text.ofNat ignored ++
        " linker argument(s) ignored")
    | _ => none
  let dropped := ((bareArguments found).filter (!acceptsBare found ·)).map
    fun argument : Text => "Not a source file: " ++ argument
  (onTheWay ++ dropped).map fun message => ⟨.debug, .sources, message⟩

end BuildRecorder.Compiler
