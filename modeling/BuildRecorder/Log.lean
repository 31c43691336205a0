import BuildRecorder.Text.Basic

/-!
# Log entries

Operations return what they have to tell as a list of entries, each with the part of the library
that speaks.
-/

namespace BuildRecorder

namespace Log

inductive Level where
  | debug
  | info
  | warning
deriving DecidableEq

def Level.name : Level → Text
  | .debug => "DEBUG"
  | .info => "INFO"
  | .warning => "WARNING"

def Level.rank : Level → Nat
  | .debug => 0
  | .info => 1
  | .warning => 2

inductive Topic where
  | sources
  | database
  | settings
  | session
  | requirements
  | events
deriving DecidableEq

structure Entry where
  level : Level
  topic : Topic
  message : Text
deriving DecidableEq

end Log

abbrev Log := List Log.Entry

def Log.from (level : Log.Level) (log : Log) : Log :=
  log.filter fun entry => level.rank ≤ entry.level.rank

end BuildRecorder
