import EditorBlocks.Json.Basic

/-!
# JSON Schema

The keywords of JSON Schema that describe block definitions, and the document
that a schema is written as.
-/

namespace EditorBlocks.Schema

inductive Keyword where
  | type (names : List String)
  | const (value : String)
  | enumeration (values : List String)
  | required (keys : List String)
  | properties (schemas : List (String × List Keyword))
  | items (schema : List Keyword)
  | itemsInOrder (schemas : List (List Keyword))
  | minItems (count : Nat)
  | maxItems (count : Nat)
  | minimum (bound : Nat)
  | oneOf (schemas : List (List Keyword))
  | anyOf (schemas : List (List Keyword))
  | allOf (schemas : List (List Keyword))
  | not (schema : List Keyword)
  /-- The schema of this name among the definitions. -/
  | reference (name : String)
  | definitions (schemas : List (String × List Keyword))
  /-- Text for readers of the schema. -/
  | remark (key text : String)

/-- A value satisfies a schema when it satisfies all of its keywords. -/
abbrev JsonSchema := List Keyword

namespace JsonSchema

/-- One type stands alone, several in a list. -/
def typeJson : List String → Json
  | [name] => .string name
  | names => .ofStrings names

mutual

def keywordMember : Keyword → String × Json
  | .type names => ("type", typeJson names)
  | .const value => ("const", .string value)
  | .enumeration values => ("enum", .ofStrings values)
  | .required keys => ("required", .ofStrings keys)
  | .properties schemas => ("properties", .ofMembers (namedJson schemas))
  | .items schema => ("items", .ofMembers (members schema))
  | .itemsInOrder schemas => ("prefixItems", .list (listJson schemas))
  | .minItems count => ("minItems", .ofNat count)
  | .maxItems count => ("maxItems", .ofNat count)
  | .minimum bound => ("minimum", .ofNat bound)
  | .oneOf schemas => ("oneOf", .list (listJson schemas))
  | .anyOf schemas => ("anyOf", .list (listJson schemas))
  | .allOf schemas => ("allOf", .list (listJson schemas))
  | .not schema => ("not", .ofMembers (members schema))
  | .reference name => ("$ref", .string ("#/$defs/" ++ name))
  | .definitions schemas => ("$defs", .ofMembers (namedJson schemas))
  | .remark key text => (key, .string text)

def members : List Keyword → List (String × Json)
  | [] => []
  | keyword :: rest => keywordMember keyword :: members rest

def listJson : List (List Keyword) → List Json
  | [] => []
  | schema :: rest => .ofMembers (members schema) :: listJson rest

def namedJson : List (String × List Keyword) → List (String × Json)
  | [] => []
  | (name, schema) :: rest => (name, .ofMembers (members schema)) :: namedJson rest

end

def toJson (schema : JsonSchema) : Json := .ofMembers (members schema)

end JsonSchema

end EditorBlocks.Schema
