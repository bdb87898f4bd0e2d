import EditorBlocks.Proofs.Objects
import EditorBlocks.Schema.JsonSchema

/-!
# What a JSON Schema means

The keywords of draft 2020-12 that schemas of block definitions use, read from
the document that a schema is written as.  Each keyword says something of a
value, given what the schemas in its argument say; a keyword that is not listed
says nothing.  References are followed a number of times, which is enough as
soon as no chain of references is longer.
-/

namespace EditorBlocks

namespace Number

/-- Integers compare as such, and other numbers as floats. -/
def below : Number → Number → Bool
  | .int a, .int b => a < b
  | a, b => a.toFloat < b.toFloat

def atMost (a b : Number) : Bool := !b.below a

end Number

namespace Schema

/-- The type of a value as the keyword for types calls it. -/
def typeName : Json → String
  | .null => "null"
  | .bool _ => "boolean"
  | .number _ => "number"
  | .string _ => "string"
  | .list _ => "array"
  | .object _ => "object"

section

variable {value : Json}

theorem typeName_eq_string : typeName value = "string" ↔ value.isString = true := by
  cases value <;> simp [typeName, Json.isString]

theorem typeName_eq_boolean : typeName value = "boolean" ↔ value.isBool = true := by
  cases value <;> simp [typeName, Json.isBool]

theorem typeName_eq_number : typeName value = "number" ↔ value.isNumber = true := by
  cases value <;> simp [typeName, Json.isNumber]

theorem typeName_eq_array : typeName value = "array" ↔ ∃ items, value = .list items := by
  cases value <;> simp [typeName]

theorem typeName_eq_object : typeName value = "object" ↔ ∃ o, value = .object o := by
  cases value <;> simp [typeName]

end

/-- One name, or a list of names. -/
def namesIn : Json → List String
  | .string name => [name]
  | value => value.strings?.getD []

/-- What the argument of a keyword says of a value: as a schema, as a list of
schemas, and as schemas with names. -/
structure Reading where
  whole : Json → Bool
  items : List (Json → Bool)
  named : List (String × (Json → Bool))

/-- What a keyword says of a value, where `done` items of a list are left to the
schemas for single positions. -/
def keywordHolds (references : String → Json → Bool) (done : Nat) (keyword : String)
    (argument : Json) (reading : Reading) (value : Json) : Bool :=
  match keyword with
  | "type" => (namesIn argument).contains (typeName value)
  | "const" => value = argument
  | "enum" => (argument.list?.getD []).contains value
  | "required" => value.object?.all fun o => (namesIn argument).all o.has
  | "properties" =>
    value.object?.all fun o => reading.named.all fun (key, holds) => (o.get? key).all holds
  | "items" => value.list?.all fun items => (items.drop done).all reading.whole
  | "prefixItems" =>
    value.list?.all fun items => (items.zip reading.items).all fun (item, holds) => holds item
  | "minItems" =>
    value.list?.all fun items => argument.number?.all fun bound => bound.atMost (.int items.length)
  | "maxItems" =>
    value.list?.all fun items => argument.number?.all (Number.atMost (.int items.length))
  | "minimum" => value.number?.all fun n => argument.number?.all fun bound => bound.atMost n
  | "oneOf" => (reading.items.countP fun holds => holds value) = 1
  | "anyOf" => reading.items.any fun holds => holds value
  | "allOf" => reading.items.all fun holds => holds value
  | "not" => !reading.whole value
  | "$ref" => argument.string?.all fun target => references target value
  | _ => true

/-- How many items of a list have schemas of their own. -/
def prefixLength (schema : Object) : Nat :=
  (((schema.get? "prefixItems").bind Json.list?).getD []).length

mutual

/-- Whether a value satisfies a schema, for given references. -/
def holds (references : String → Json → Bool) : Json → Json → Bool
  | .bool b => fun _ => b
  | .object members => membersHold references (prefixLength members) members
  | _ => fun _ => false

def membersHold (references : String → Json → Bool) (done : Nat) :
    List (String × Json) → Json → Bool
  | [] => fun _ => true
  | (keyword, argument) :: rest => fun value =>
    keywordHolds references done keyword argument
      ⟨holds references argument, itemReadings references argument,
        namedReadings references argument⟩ value &&
      membersHold references done rest value

def itemReadings (references : String → Json → Bool) : Json → List (Json → Bool)
  | .list items => listReadings references items
  | _ => []

def listReadings (references : String → Json → Bool) : List Json → List (Json → Bool)
  | [] => []
  | schema :: rest => holds references schema :: listReadings references rest

def namedReadings (references : String → Json → Bool) : Json → List (String × (Json → Bool))
  | .object members => memberReadings references members
  | _ => []

def memberReadings (references : String → Json → Bool) :
    List (String × Json) → List (String × (Json → Bool))
  | [] => []
  | (name, schema) :: rest => (name, holds references schema) :: memberReadings references rest

end

/-- The schema that a reference within a document leads to. -/
def referenced? (schema : Json) (target : String) : Option Json := do
  let definitions ← (← (← schema.object?).get? "$defs").object?
  (definitions.find? fun m => "#/$defs/" ++ m.1 = target).map Prod.snd

/-- What references mean when they are followed at most so many times in a row. -/
def follow (schema : Json) : Nat → String → Json → Bool
  | 0 => fun _ _ => false
  | n + 1 => fun target value =>
    (referenced? schema target).any fun found => holds (follow schema n) found value

/-- The value satisfies the schema as far as references are followed. -/
def SatisfiesAt (depth : Nat) (schema value : Json) : Prop :=
  holds (follow schema depth) schema value = true

instance (depth : Nat) (schema value : Json) : Decidable (SatisfiesAt depth schema value) :=
  inferInstanceAs (Decidable (_ = true))

/-- The value satisfies the schema however far references are followed, once
that is far enough. -/
def Satisfies (schema value : Json) : Prop :=
  ∃ enough, ∀ depth, enough ≤ depth → SatisfiesAt depth schema value

end Schema

end EditorBlocks
