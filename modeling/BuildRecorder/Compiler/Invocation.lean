import BuildRecorder.Compiler.Location
import BuildRecorder.Compiler.Sources

/-!
# Invocations of a compiler

From the command line of a compiler task to what a compilation database needs: the canonical path of
the compiler, the command rebuilt with it, and the source files.
-/

namespace BuildRecorder.Compiler

structure Invocation where
  compiler : Text
  arguments : Text
  command : Text
  sources : List Text
deriving DecidableEq

/-- The compiler is always quoted, since its path may contain spaces. -/
def buildCommand (compiler arguments : Text) : Text :=
  let quoted := "\"" ++ compiler ++ "\""
  if arguments.isEmpty then quoted else quoted ++ " " ++ arguments

/-- The directory that relative paths are seen from; an empty one is the working directory. -/
def baseDirectory (cwd : Text) (base : Text) : Text := if base.isEmpty then cwd else base

/-- Recognizes an invocation in a command line that was run in the directory `base`. -/
def classify (strategy : Strategy) (marker cwd base line : Text) : Except Refusal Invocation :=
  match locate strategy marker line with
  | .error refusal => .error refusal
  | .ok (compiler, arguments) =>
    match Arguments.split arguments with
    | .error fault => .error (.arguments fault)
    | .ok tokens =>
      let compiler := Path.canonical (baseDirectory cwd base) compiler
      .ok
        { compiler
          arguments
          command := buildCommand compiler arguments
          sources := sources tokens }

def Invocation.log (invocation : Invocation) : Log :=
  let tokens := (Arguments.split invocation.arguments).toOption.getD []
  let message :=
    if invocation.sources.isEmpty then "No source files in invocation of " ++ invocation.compiler
    else "Sources of " ++ invocation.compiler ++ ": " ++ Arguments.join invocation.sources
  sourcesLog tokens ++ [⟨.debug, .sources, message⟩]

end BuildRecorder.Compiler
