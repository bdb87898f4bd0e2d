import EditorBlocks.Output.Format
import EditorBlocks.Toml.Writer
import EditorBlocks.Validation.Batch

/-!
# Settings

What a settings file can say, and what holds when it says nothing.
-/

namespace EditorBlocks

structure ValidationSettings where
  mode : Validation.Mode
  /-- The names that extensions may have; any name without this. -/
  knownExtensions : Option (List String)
  knownMutators : Option (List String)
  failFast : Bool
deriving DecidableEq, Repr

structure OutputSettings where
  format : OutputFormat
  colour : Bool
  progress : Bool
deriving DecidableEq, Repr

structure LoggingSettings where
  level : String
  format : String
  file : Option String
deriving DecidableEq, Repr

structure Settings where
  validation : ValidationSettings
  output : OutputSettings
  logging : LoggingSettings
deriving DecidableEq, Repr

namespace ValidationSettings

def standard : ValidationSettings := ⟨.strict, none, none, false⟩

/-- The settings of a batch, in this mode unless another one is asked for. -/
def toBatch (s : ValidationSettings) (mode : Option Validation.Mode) :
    Validation.BatchSettings :=
  { mode := mode.getD s.mode
    failFast := s.failFast
    maxErrors := 0
    extensions := s.knownExtensions.map .ofList
    mutators := s.knownMutators.map .ofList }

end ValidationSettings

def OutputSettings.standard : OutputSettings := ⟨.human, true, true⟩

def LoggingSettings.standard : LoggingSettings := ⟨"warn", "compact", none⟩

namespace Settings

def standard : Settings := ⟨.standard, .standard, .standard⟩

/-! ## Writing -/

/-- An entry that is left out when there is no value for it. -/
def optional {α : Type} (key : String) (entry : α → Toml.Entry) :
    Option α → List (String × Toml.Entry)
  | none => []
  | some x => [(key, entry x)]

/-- The sections of a settings file with their entries, in the order in which
they are written. -/
def sections (s : Settings) : List (String × List (String × Toml.Entry)) :=
  [("validation", [("mode", .string s.validation.mode.name)] ++
      optional "known_extensions" .strings s.validation.knownExtensions ++
      optional "known_mutators" .strings s.validation.knownMutators ++
      [("fail_fast", .boolean s.validation.failFast)]),
    ("output", [("format", .string s.output.format.name), ("color", .boolean s.output.colour),
      ("progress", .boolean s.output.progress)]),
    ("logging", [("level", .string s.logging.level), ("format", .string s.logging.format)] ++
      optional "file" .string s.logging.file)]

def entryJson : Toml.Entry → Json
  | .string s => .string s
  | .boolean b => .bool b
  | .strings items => .ofStrings items

def toJson (s : Settings) : Json :=
  .object (s.sections.map fun (name, entries) =>
    (name, .object (entries.map fun (key, e) => (key, entryJson e))))

/-- The formats of settings files. -/
inductive Format where
  | toml
  | json
  | yaml
deriving DecidableEq, Repr

namespace Format

def all : List Format := [.toml, .json, .yaml]

def name : Format → String
  | .toml => "toml"
  | .json => "json"
  | .yaml => "yaml"

def ofName? (name : String) : Option Format := all.find? (·.name = name)

end Format

def write (s : Settings) : Format → String
  | .toml => Toml.write s.sections
  | .json => s.toJson.pretty
  | .yaml => Yaml.write s.toJson

end Settings

end EditorBlocks
