import EditorBlocks.Files

/-!
# Loggers

A log is written by a library, which chooses the words of its lines and puts times
and the name of the session into them.  For a run only two things matter: where the
lines go, and that there can be some at any time.
-/

namespace EditorBlocks

/-- Where the lines of a log go. -/
inductive LogSink where
  | nowhere
  | errors
  | file (place : Files.Place)
deriving DecidableEq, Repr

namespace LogSink

def place? : LogSink → Option Files.Place
  | file place => some place
  | nowhere | errors => none

end LogSink

structure Logger where
  /-- What it writes in the stretches of a run that are still to come. -/
  stretches : List String
  /-- Its last words when its file, at a path, cannot be opened. -/
  refusal : String → Files.Fault → String

namespace Logger

/-- A logger that never writes anything. -/
def silent : Logger := ⟨[], fun _ _ => ""⟩

end Logger

end EditorBlocks
