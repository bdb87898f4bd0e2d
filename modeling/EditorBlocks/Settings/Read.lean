import EditorBlocks.Document.Format
import EditorBlocks.Files
import EditorBlocks.Settings.Basic
import EditorBlocks.Settings.Source

/-!
# Reading settings

A settings file is read in the format of its extension.  What it leaves out
stays as it is by default, and what is unknown in it is passed over.
-/

namespace EditorBlocks

namespace Settings

variable {ν : Type} [Source ν]

/-- The setting of a name, as `read` takes it; the default if it is not there. -/
def setting {α : Type} (values : List (String × ν)) (name : String) (default : α)
    (read : ν → Option α) : Option α :=
  match values.lookup name with
  | none => some default
  | some v => read v

def strings? (v : ν) : Option (List String) :=
  (Source.list? v).bind fun items => items.mapM Source.string?

/-- A setting that may be absent. -/
def optionally {α : Type} (read : ν → Option α) (v : ν) : Option (Option α) :=
  match Source.absent? v with
  | some true => some none
  | some false => (read v).map some
  | none => none

/-- The names of the settings in a section, in their order. -/
def validationNames : List String := ["mode", "known_extensions", "known_mutators", "fail_fast"]

def outputNames : List String := ["format", "color", "progress"]

def loggingNames : List String := ["level", "format", "file"]

/-- The names of the sections, each with those of its settings. -/
def sectionNames : List (String × List String) :=
  [("validation", validationNames), ("output", outputNames), ("logging", loggingNames)]

def readValidation (v : ν) : Option ValidationSettings := do
  let values ← Source.fields? validationNames v
  let standard := ValidationSettings.standard
  return {
    mode := ← setting values "mode" standard.mode fun v =>
      (Source.word? v).bind Validation.Mode.ofName?
    knownExtensions := ← setting values "known_extensions" none (optionally strings?)
    knownMutators := ← setting values "known_mutators" none (optionally strings?)
    failFast := ← setting values "fail_fast" standard.failFast Source.bool? }

def readOutput (v : ν) : Option OutputSettings := do
  let values ← Source.fields? outputNames v
  let standard := OutputSettings.standard
  return {
    format := ← setting values "format" standard.format fun v =>
      (Source.word? v).bind OutputFormat.ofName?
    colour := ← setting values "color" standard.colour Source.bool?
    progress := ← setting values "progress" standard.progress Source.bool? }

def readLogging (v : ν) : Option LoggingSettings := do
  let values ← Source.fields? loggingNames v
  let standard := LoggingSettings.standard
  return {
    level := ← setting values "level" standard.level Source.string?
    format := ← setting values "format" standard.format Source.string?
    file := ← setting values "file" none (optionally Source.string?) }

/-- The settings in a value. -/
def ofSource? (v : ν) : Option Settings := do
  let values ← Source.fields? (sectionNames.map Prod.fst) v
  let standard := Settings.standard
  return {
    validation := ← setting values "validation" standard.validation readValidation
    output := ← setting values "output" standard.output readOutput
    logging := ← setting values "logging" standard.logging readLogging }

/-! ## Files -/

/-- Why there are no settings. -/
inductive LoadError where
  | notFound (path : String)
  | unreadable (reason : Files.Fault)
  | unsupportedFormat (path : String)
  | notToml (path : String)
  | notYaml
  | notJson (error : Json.SyntaxError)
  /-- JSON that does not say settings. -/
  | notSettings
deriving DecidableEq, Repr

def readToml (path text : String) : Except LoadError Settings :=
  match (Toml.read text).bind fun t => ofSource? t.toValue with
  | some s => .ok s
  | none => .error (.notToml path)

def readYaml (text : String) : Except LoadError Settings :=
  let place? := do
    match ← Yaml.Node.ofTokens? (← Yaml.Token.scan text) with
    | none => return YamlPlace.mk ⟨[], 0⟩ .missing
    | some root => return YamlPlace.mk (.ofNode root) root
  match place?.bind ofSource? with
  | some s => .ok s
  | none => .error .notYaml

/-- What is wanted of a JSON text: the settings of the sections, each with all of its value. -/
def outline : Json.Outline :=
  .members (sectionNames.map fun (name, names) => (name, .members (names.map (·, .whole))))

def readJson (text : String) : Except LoadError Settings := do
  let value ← (Json.readWanted outline text).mapError .notJson
  match ofSource? value with
  | some s => return s
  | none => throw .notSettings

/-- The format that an extension stands for, in upper or lower case. -/
def Format.ofPath? (path : String) : Option Format :=
  match (Document.extension? path).map Text.lowerAscii with
  | some "toml" => some .toml
  | some "yaml" | some "yml" => some .yaml
  | some "json" => some .json
  | _ => none

def load (files : Files) (path : String) : Except LoadError Settings := do
  if !files.has path then throw (.notFound path)
  let text ← (files.readText path).mapError .unreadable
  match Format.ofPath? path with
  | some .toml => readToml path text
  | some .yaml => readYaml text
  | some .json => readJson text
  | none => throw (.unsupportedFormat path)

/-- Writes settings to a file, in TOML unless its extension says otherwise. -/
def save (files : Files) (path : String) (s : Settings) : Except Files.Halt Files :=
  files.save path (Text.encode (s.write ((Format.ofPath? path).getD .toml)))

/-! ## Where settings files are -/

/-- Files in the working directory, the first of which counts. -/
def projectPaths : List String := [".blockdef.toml", ".blockdef.yaml", ".blockdef.json"]

def projectPath? (files : Files) : Option String := projectPaths.find? files.has

/-- The path of the settings file that is in effect, unless one is named. -/
def findPath? (files : Files) (userPath : Option String) : Option String :=
  (projectPath? files).or (userPath.filter files.has)

/-- The settings of the named file, or of the one that is in effect. -/
def find (files : Files) (userPath named : Option String) : Except LoadError Settings :=
  match named.or (findPath? files userPath) with
  | some path => load files path
  | none => .ok .standard

end Settings

end EditorBlocks
