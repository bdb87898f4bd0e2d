import EditorBlocks.Schema.JsonSchema
import EditorBlocks.Schema.Tables

/-!
# The schema of block definitions

The constraint tables as a JSON Schema, for editors that complete and check
documents.  Rules that join several values, as those of placeholders and names
do, have no keyword and are left to the validator.
-/

namespace EditorBlocks.Schema

def draft : String := "https://json-schema.org/draft/2020-12/schema"

namespace Shape

def keywords : Shape → JsonSchema
  | .string | .align => [.type ["string"]]
  | .bool => [.type ["boolean"]]
  | .number => [.type ["number"]]
  | .strings => [.type ["array"], .items [.type ["string"]]]
  | .connectionCheck => [.reference "connectionCheck"]
  | .arguments => [.type ["array"], .items [.reference "argument"]]
  | .options => [.type ["array"], .items [.reference "dropdownOption"]]
  | .colour => [.type ["string", "number"]]
  | .anything => []

end Shape

def Rule.keywords : Rule → JsonSchema
  | .nonEmpty => [.minItems 1]
  | .nonNegative => [.minimum 0]
  | .oneOf names => [.enumeration names]
  | .distinctOptions | .hueInRange | .distinctTypes => []

def Constraint.schema (c : Constraint) : JsonSchema :=
  c.shape.keywords ++ c.rules.flatMap Rule.keywords

def Constraint.property (c : Constraint) : String × JsonSchema := (c.key, c.schema)

def Table.schema (t : Table) : JsonSchema :=
  [.type ["object"],
    .properties (("type", [.const t.tag]) :: t.constraints.map Constraint.property),
    .required ("type" :: t.requiredKeys)]

def connectionCheckSchema : JsonSchema :=
  [.oneOf [[.type ["null"]], [.type ["string"]], Shape.strings.keywords]]

def imageSchema : JsonSchema :=
  [.type ["object"],
    .properties [("src", [.type ["string"]]), ("width", [.type ["number"]]),
      ("height", [.type ["number"]]), ("alt", [.type ["string"]])],
    .required ["src", "width", "height"]]

def dropdownOptionSchema : JsonSchema :=
  [.type ["array"],
    .itemsInOrder [[.anyOf [[.type ["string"]], imageSchema]], [.type ["string"]]],
    .minItems 2, .maxItems 2]

def argumentSchema : JsonSchema :=
  [.oneOf (ArgumentKind.all.map fun kind => [.reference kind.name])]

def exportedDefinitions : List (String × JsonSchema) :=
  [("connectionCheck", connectionCheckSchema), ("dropdownOption", dropdownOptionSchema),
    ("argument", argumentSchema)] ++
    ArgumentKind.all.map fun kind => (kind.name, (argument kind).schema)

/-- A key of value blocks and a key of statement blocks exclude each other. -/
def exclusions : List JsonSchema :=
  statementBlock.constraints.flatMap fun statement =>
    valueBlock.constraints.map fun value => [.not [.required [value.key, statement.key]]]

/-- The schema of a block definition. -/
def exported : JsonSchema :=
  [.remark "$schema" draft,
    .remark "title" "Block definition",
    .remark "description" "Declarative definition of one kind of editor block",
    .type ["object"],
    .required ["type"],
    .properties (root.map Constraint.property),
    .allOf exclusions,
    .definitions exportedDefinitions]

end EditorBlocks.Schema
