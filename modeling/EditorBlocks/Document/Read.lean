import EditorBlocks.Document.Format
import EditorBlocks.Files
import EditorBlocks.Json.Writer
import EditorBlocks.Yaml.Writer

/-!
# Reading documents

A document is read as its format demands.  A file may hold one definition or a
list of them.
-/

namespace EditorBlocks.Document

/-- Why there is no document. -/
inductive LoadError where
  | unreadable (path : String) (reason : Files.Fault)
  | notUtf8 (path : String) (fault : Text.Utf8Fault)
  | notYaml (path : String)
  | notJson (path : String) (error : Json.SyntaxError)
  | unsupportedFormat (path : String)
  | unparseable (path : String)
deriving DecidableEq, Repr

namespace LoadError

def path : LoadError → String
  | unreadable path _ | notUtf8 path _ | notYaml path | notJson path _ | unsupportedFormat path
  | unparseable path => path

/-- The text is there, but it is no document. -/
def isParseError : LoadError → Bool
  | notUtf8 .. | notYaml _ | notJson .. | unparseable _ => true
  | unreadable .. | unsupportedFormat _ => false

def message : LoadError → String
  | unreadable path reason => "Failed to read file '" ++ path ++ "': " ++ reason.message
  | notUtf8 path fault => "File '" ++ path ++ "' is not valid UTF-8: " ++ fault.message
  | notYaml path => "Failed to parse YAML file '" ++ path ++ "': not a YAML document"
  | notJson path error => "Failed to parse JSON file '" ++ path ++ "': " ++ error.message
  | unsupportedFormat path =>
    "Unsupported file format for '" ++ path ++ "'. Expected .yaml, .yml, or .json"
  | unparseable path => "Could not parse '" ++ path ++ "' as JSON or YAML"

end LoadError

/-- Reads a text in a format.  A YAML value whose keys are no scalars has no
counterpart in JSON.  The path is for errors only. -/
def read (format : Format) (text path : String) : Except LoadError Json :=
  match format with
  | .json => (Json.read text).mapError (.notJson path)
  | .yaml =>
    match Yaml.Value.read text with
    | none => .error (.notYaml path)
    | some value => value.toJson.mapError fun fault => .notJson path ⟨fault, none⟩

/-- The formats to try for a path: the one it names, then JSON and YAML. -/
def candidates (path : String) : List Format :=
  match Format.ofPath? path with
  | some .json => [.json, .yaml]
  | some .yaml => [.yaml, .json]
  | none => [.json, .yaml]

/-- Reads a text whose format may not match its path. -/
def readAny (text path : String) : Except LoadError (Json × Format) :=
  match (candidates path).findSome? fun f => (read f text path).toOption.map fun v => (v, f) with
  | some result => .ok result
  | none => .error (.unparseable path)

def write (format : Format) (value : Json) : String :=
  match format with
  | .json => value.pretty
  | .yaml => Yaml.write value

/-- The documents of a value: its items, or the value alone. -/
def split : Json → List Json
  | .list items => items
  | value => [value]

/-- Reads a file in the format of its extension. -/
def load (files : Files) (path : String) : Except LoadError Json := do
  match Format.ofPath? path with
  | none => throw (.unsupportedFormat path)
  | some format =>
    let bytes ← (files.read path).mapError (.unreadable path)
    let text ← (Text.decode bytes).mapError (.notUtf8 path)
    read format text path

def loadAll (files : Files) (path : String) : Except LoadError (List Json) :=
  (load files path).map split

end EditorBlocks.Document
