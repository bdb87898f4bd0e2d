import EditorBlocks.Command.Failure
import EditorBlocks.CommandLine.Parser
import EditorBlocks.Logging.Logger

/-!
# The surroundings of a command

The files, the standard input and the environment that a command finds, the log that
is written beside it, and the documents that it reads.  No stream is a terminal, so
nothing is coloured and no progress is drawn.
-/

namespace EditorBlocks

structure World where
  files : Files
  /-- What is still to be read from the standard input. -/
  input : List UInt8
  environment : CommandLine.Environment
  logger : Logger
  /-- Where the log goes, which is nowhere before it is opened. -/
  sink : LogSink
  /-- What was written to the error stream. -/
  complaints : String

namespace World

/-- Surroundings in which nobody complained and nothing is ever logged. -/
def silent (files : Files) (input : List UInt8) (environment : CommandLine.Environment) : World :=
  ⟨files, input, environment, .silent, .nowhere, ""⟩

/-- Writes to the error stream. -/
def complain (w : World) (text : String) : World := { w with complaints := w.complaints ++ text }

/-- The log goes on by a stretch. -/
def logNext (w : World) : World :=
  match w.logger.stretches with
  | [] => w
  | text :: stretches =>
    let w := { w with logger := { w.logger with stretches } }
    match w.sink with
    | .nowhere => w
    | .errors => w.complain text
    | .file place => { w with files := w.files.append place (Text.encode text) }

section Log

variable (files : Files) (input : List UInt8) (environment : CommandLine.Environment)

@[simp]
theorem silent_files : (silent files input environment).files = files := rfl

@[simp]
theorem silent_input : (silent files input environment).input = input := rfl

@[simp]
theorem logNext_silent : (silent files input environment).logNext =
    silent files input environment := rfl

@[simp]
theorem input_logNext (w : World) : w.logNext.input = w.input := by
  unfold logNext
  cases w.logger.stretches with
  | nil => rfl
  | cons text stretches => cases w.sink <;> rfl

end Log

def lookUp? (w : World) (name : String) : Option String := w.environment.lookup name

/-- What names the directory of a user, and the one for settings, in the
environment. -/
def homeVariable : String := "HOME"

def settingsHomeVariable : String := "XDG_CONFIG_HOME"

/-- A path below another one. -/
def below (directory name : String) : String :=
  if directory.endsWith "/" then directory ++ name else directory ++ "/" ++ name

/-- The directory that holds the settings of a user. -/
def userDirectory? (w : World) : Option String :=
  match w.lookUp? settingsHomeVariable with
  | some directory =>
    if directory.startsWith "/" then some directory else underHome
  | none => underHome
where
  underHome : Option String :=
    (w.lookUp? homeVariable).bind fun home =>
      if home.isEmpty then none else some (below home ".config")

/-- The path of the settings file of a user. -/
def userSettingsPath? (w : World) : Option String :=
  w.userDirectory?.map fun directory => below directory "blockdef/config.toml"

def findSettings (w : World) (named : Option String) : Except Failure Settings :=
  (Settings.find w.files w.userSettingsPath? named).mapError .ofSettings

/-- A lone dash stands for the standard input. -/
def isInput (path : String) : Bool := path = "-"

/-- The name of a path in reports. -/
def displayName (path : String) : String := if isInput path then "<stdin>" else path

/-- Reads the document at a path, and logs that.  The standard input can be in any
format, and nothing is left of it afterwards. -/
def readDocument (w : World) (path : String) : Except Failure (Json × World) := do
  if isInput path then
    match Text.decode w.input with
    | .error _ => throw (.io .notText)
    | .ok text =>
      let (document, _) ← (Document.readAny text (displayName path)).mapError .document
      return (document, { w with input := [] }.logNext)
  if !w.files.has path then throw (.fileNotFound path)
  let document ← (Document.load w.files path).mapError .document
  return (document, w.logNext)

end World

end EditorBlocks
