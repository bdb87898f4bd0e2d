import EditorBlocks.Json.Writer
import EditorBlocks.Yaml.Writer

/-!
# Output formats

How results are printed: as text for people, or as data.
-/

namespace EditorBlocks

inductive OutputFormat where
  | human
  | json
  | yaml
  /-- JSON on several lines. -/
  | prettyJson
deriving DecidableEq, Repr

namespace OutputFormat

def all : List OutputFormat := [.human, .json, .yaml, .prettyJson]

def name : OutputFormat → String
  | .human => "human"
  | .json => "json"
  | .yaml => "yaml"
  | .prettyJson => "json-pretty"

def ofName? (name : String) : Option OutputFormat := all.find? (·.name = name)

/-- Data in a format; people get it as JSON on several lines. -/
def write : OutputFormat → Json → String
  | .json, value => value.compact
  | .yaml, value => Yaml.write value
  | .human, value | .prettyJson, value => value.pretty

end OutputFormat

end EditorBlocks
