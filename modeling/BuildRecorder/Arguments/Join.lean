import BuildRecorder.Arguments.Split

/-!
# Joining arguments into a command line

The inverse of splitting: an argument that is empty or holds a separator is put between quotes,
quotes are escaped, and backslashes are doubled where a quote follows them.
-/

namespace BuildRecorder.Arguments

/-- Writes an argument after `pending` backslashes that have not been written yet. -/
def escape (quoted : Bool) (pending : Nat) : Text → Text
  | [] => backslashes (if quoted then 2 * pending else pending)
  | c :: rest =>
    if c = backslash then escape quoted (pending + 1) rest
    else if c = quote then backslashes (2 * pending + 1) ++ quote :: escape quoted 0 rest
    else backslashes pending ++ c :: escape quoted 0 rest

def needsQuotes (argument : Text) : Bool := argument.isEmpty || argument.any isSeparator

def quoteArgument (argument : Text) : Text :=
  if needsQuotes argument then quote :: (escape true 0 argument ++ [quote])
  else escape false 0 argument

def join (arguments : List Text) : Text := Text.join " " (arguments.map quoteArgument)

/-- The first of several values that is no argument, by its kind. -/
structure NotAnArgument where
  kind : Text
deriving DecidableEq

def NotAnArgument.message (fault : NotAnArgument) : Text :=
  "expected str, bytes or os.PathLike object, not " ++ fault.kind

def ofValues (values : List Json) : Except NotAnArgument (List Text) :=
  values.mapM fun
    | .text argument => .ok argument
    | value => .error ⟨value.kindName⟩

end BuildRecorder.Arguments
