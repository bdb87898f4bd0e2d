import EditorBlocks.Document.Format
import EditorBlocks.Files
import EditorBlocks.Logging.Filter
import EditorBlocks.Settings.Basic
import EditorBlocks.Text.LowerCase

/-!
# Log plans

How much is logged, in which form, and where to.  The command line, the settings
file and the environment all have a say in it.
-/

namespace EditorBlocks

inductive LogFormat where
  | compact
  | full
  | json
deriving DecidableEq, Repr

namespace LogFormat

def all : List LogFormat := [.compact, .full, .json]

def name : LogFormat → String
  | .compact => "compact"
  | .full => "full"
  | .json => "json"

end LogFormat

/-- Why there can be no log as it is asked for. -/
inductive LogFault where
  /-- A name that no format has, in lower case. -/
  | unknownFormat (name : String)
  | badFilter (text : String) (fault : LogFilter.Fault)
  /-- A path that does not end in a name. -/
  | badPath (path : String)
deriving DecidableEq, Repr

def LogFault.message : LogFault → String
  | .unknownFormat name =>
    "Invalid log format '" ++ name ++ "': expected compact, full or json"
  | .badFilter text fault => "Invalid log level '" ++ text ++ "': " ++ fault.message
  | .badPath path => "Invalid log file path '" ++ path ++ "'"

namespace LogFormat

/-- The format of a name in upper or lower case. -/
def read (name : String) : Except LogFault LogFormat :=
  let name := Text.lower name
  match all.find? (·.name = name) with
  | some f => .ok f
  | none => .error (.unknownFormat name)

end LogFormat

/-- What sets the level, the format and the file in the environment. -/
def levelVariable : String := "RUST_LOG"

def formatVariable : String := "BLOCKDEF_LOG_FORMAT"

def fileVariable : String := "BLOCKDEF_LOG_FILE"

structure LogPlan where
  level : String
  format : LogFormat
  /-- The file to log to; the error stream without one. -/
  file : Option String
  threadIds : Bool
  sourceLocation : Bool
  spanEvents : Bool
deriving DecidableEq, Repr

namespace LogPlan

def standard : LogPlan := ⟨"warn", .compact, none, false, false, false⟩

/-- The plan for a count of `-v` flags. -/
def ofVerbosity : Nat → LogPlan
  | 0 => standard
  | 1 => { standard with level := "info" }
  | 2 => { standard with level := "debug", sourceLocation := true }
  | _ => ⟨"trace", .full, none, true, true, true⟩

/-- The plan of settings.  Flags win over the level set there, and so does a
demand for quiet; from the third flag on the format is fixed as well. -/
def resolve (settings : LoggingSettings) (verbosity : Nat) (quiet : Bool) :
    Except LogFault LogPlan := do
  let plan := if verbosity = 0 then { standard with level := settings.level }
    else ofVerbosity verbosity
  let format ← if verbosity < 3 then LogFormat.read settings.format else pure plan.format
  return { plan with
    format
    file := settings.file
    level := if quiet then "error" else plan.level }

end LogPlan

end EditorBlocks
