import EditorBlocks.Document.Read
import EditorBlocks.Logging.Plan
import EditorBlocks.Settings.Read

/-!
# Failures of commands

Why a command does not succeed, and the code with which the program then ends.
-/

namespace EditorBlocks

/-- What is wrong with the settings. -/
inductive SettingsFault where
  | unsupportedFile (path : String)
  | notToml (path : String)
  | log (fault : LogFault)
  | noUserDirectory
  /-- Anything else, in words. -/
  | other (text : String)
deriving DecidableEq, Repr

def SettingsFault.message : SettingsFault → String
  | .unsupportedFile path =>
    "Unsupported config file '" ++ path ++ "': expected .toml, .yaml, .yml or .json"
  | .notToml path => path ++ ": not a settings file"
  | .log fault => fault.message
  | .noUserDirectory => "Unable to determine user config directory"
  | .other text => text

/-- Arguments that do not fit the file they are about. -/
inductive ArgumentsFault where
  | indexTooLarge (index count : Nat)
  | indexNeeded (count : Nat)
  | indexOfSingle (index : Nat)
  /-- Anything else, in words. -/
  | other (text : String)
deriving DecidableEq, Repr

def ArgumentsFault.message : ArgumentsFault → String
  | .indexTooLarge index count =>
    "--index " ++ toString index ++ " is out of range for " ++ toString count ++ " definition(s)"
  | .indexNeeded count =>
    "file holds " ++ toString count ++ " definitions; pick one with --index"
  | .indexOfSingle index =>
    "--index " ++ toString index ++ " given but the file holds a single definition"
  | .other text => text

inductive Failure where
  | io (reason : Files.Fault)
  | document (error : Document.LoadError)
  /-- Definitions were looked at, and some are bad. -/
  | rejected (failed total : Nat)
  | fileNotFound (path : String)
  | settings (fault : SettingsFault)
  | arguments (fault : ArgumentsFault)
  | json (error : Json.SyntaxError)
  /-- JSON that does not say settings. -/
  | notSettings
  | notYaml
  | other (text : String)
deriving DecidableEq, Repr

namespace Failure

def message : Failure → String
  | io reason => "IO error: " ++ reason.message
  | document error => error.message
  | rejected failed total =>
    toString failed ++ " of " ++ toString total ++ " definition(s) failed validation"
  | fileNotFound path => "File not found: " ++ path
  | settings fault => "Configuration error: " ++ fault.message
  | arguments fault => "Invalid arguments: " ++ fault.message
  | json error => "JSON error: " ++ error.message
  | notSettings => "JSON error: not a settings file"
  | notYaml => "YAML error: not a settings file"
  | other text => text

/-- The code with which the program ends; bad definitions have one of their own. -/
def exitCode : Failure → Nat
  | io _ => 1
  | rejected .. => 2
  | fileNotFound _ => 3
  | document _ => 4
  | settings _ => 5
  | arguments _ => 6
  | json _ | notSettings => 12
  | notYaml => 13
  | other _ => 99

def suggestsHelp : Failure → Bool
  | arguments _ => true
  | _ => false

/-- The message behind a label, which may stand out in bold red. -/
def labelled (coloured : Bool) (f : Failure) : String :=
  (if coloured then "\x1b[1;31mError:\x1b[0m " else "Error: ") ++ f.message

/-- What the program says about a failure. -/
def report (f : Failure) : String :=
  f.labelled false ++ "\n" ++
    if f.suggestsHelp then "\nFor more information, try '--help'\n" else ""

def ofSettings : Settings.LoadError → Failure
  | .notFound path => .fileNotFound path
  | .unreadable reason => .io reason
  | .unsupportedFormat path => .settings (.unsupportedFile path)
  | .notToml path => .settings (.notToml path)
  | .notYaml => .notYaml
  | .notJson error => .json error
  | .notSettings => .notSettings

end Failure

end EditorBlocks
