import EditorBlocks.Json.Reader
import EditorBlocks.Toml.Reader
import EditorBlocks.Yaml.Value

/-!
# Sources of settings

What the values of the three formats can be read as.  The formats differ in
that: a plain YAML scalar can be any string, while JSON and TOML tell strings
from other values.
-/

namespace EditorBlocks.Settings

/-- A kind of value that settings can be read from. -/
class Source (ν : Type) where
  string? : ν → Option String
  bool? : ν → Option Bool
  /-- Whether nothing is set, if that can be told. -/
  absent? : ν → Option Bool
  list? : ν → Option (List ν)
  /-- One of several words. -/
  word? : ν → Option String
  /-- The values of a section by their names, of which these are known.  A name
  may not come twice, and names that are not known do not matter. -/
  fields? : List String → ν → Option (List (String × ν))

/-- Whether no two members have one name. -/
def distinct {ν : Type} : List (String × ν) → Bool
  | [] => true
  | (name, _) :: rest => !rest.any (·.1 = name) && distinct rest

/-- The members with known names, if none of these comes twice. -/
def known {ν : Type} (names : List String) (members : List (String × ν)) :
    Option (List (String × ν)) :=
  let members := members.filter fun m => names.contains m.1
  if distinct members then some members else none

/-! ## JSON -/

/-- A section may also be a list of its values, with the last ones left out.  A
word may also be the name of an only member that is null. -/
instance : Source Json where
  string? := Json.string?
  bool? := Json.bool?
  absent? v := some (v = .null)
  list? := Json.list?
  word?
    | .string s => some s
    | .object [(name, .null)] => some name
    | _ => none
  fields? names
    | .object members => known names members
    | .list items => if items.length ≤ names.length then some (names.zip items) else none
    | _ => none

/-! ## TOML -/

namespace Toml

open EditorBlocks.Toml

def items? : Value → Option (List Value)
  | .array items => some items
  | .tables items => some (items.map fun (origin, entries) => .table origin entries)
  | _ => none

def isEmptyCollection : Value → Bool
  | .array [] | .table _ [] | .tables [] => true
  | _ => false

end Toml

/-- A section may also be an array of its values, or a date or time, which sets
nothing; and a word the only key of a table, with an empty value. -/
instance : Source Toml.Value where
  string?
    | .string s => some s
    | _ => none
  bool?
    | .boolean b => some b
    | _ => none
  absent? _ := some false
  list? := Toml.items?
  word?
    | .string s => some s
    | .table _ [(name, v)] => if Toml.isEmptyCollection v then some name else none
    | _ => none
  fields? names
    | .table _ entries => known names entries
    | .moment _ => some []
    | v => (Toml.items? v).map names.zip

/-! ## YAML -/

/-- A node of a YAML text, with what its aliases stand for. -/
structure YamlPlace where
  aliases : Yaml.Aliases
  node : Yaml.Node

namespace YamlPlace

/-- The place of a node in the same text. -/
def move (p : YamlPlace) (node : Yaml.Node) : YamlPlace := { p with node }

/-- The node itself, or the one that it is an alias of. -/
def target (p : YamlPlace) : Yaml.Node :=
  match p.node with
  | .alias n => (p.aliases.targets.lookup n).getD .missing
  | node => node

/-- A plain scalar without a text. -/
def isEmpty : Yaml.Node → Bool
  | .scalar _ "" style => style.isPlain
  | _ => false

/-- A scalar that means nothing, whatever its tag. -/
def isNull (text : String) (style : Yaml.Style) : Bool :=
  style.isPlain && (text = "" || Yaml.null? text)

/-- Under the tag of the null value a plain scalar has to be one in words; under
another tag it is never null. -/
def absent? (tag : Option Yaml.Tag) (text : String) (style : Yaml.Style) : Option Bool :=
  if !style.isPlain then some false
  else
    match tag with
    | none => some (isNull text style)
    | some tag =>
      if tag ≠ .ofType "null" then some false
      else if Yaml.null? text then some true
      else none

/-- A truth value is plain, or a literal block with its tag. -/
def bool? (tag : Option Yaml.Tag) (text : String) (style : Yaml.Style) : Option Bool :=
  if style = .plain ∨ (style = .literal ∧ tag = some (.ofType "bool")) then
    Yaml.bool? text
  else none

def string? (p : YamlPlace) : Option String :=
  match p.target with
  | .scalar _ text _ => some text
  | _ => none

/-- The members of a mapping whose keys are scalars. -/
def members? (p : YamlPlace) (entries : List (Yaml.Node × Yaml.Node)) :
    Option (List (String × YamlPlace)) :=
  entries.mapM fun (key, value) => (p.move key).string?.map fun name => (name, p.move value)

end YamlPlace

/-- Every scalar is a string.  A word may also be a tag of one's own, without a
value. -/
instance : Source YamlPlace where
  string? := YamlPlace.string?
  bool? p :=
    match p.target with
    | .scalar properties text style => YamlPlace.bool? properties.tag text style
    | _ => none
  absent? p :=
    match p.target with
    | .scalar properties text style => YamlPlace.absent? properties.tag text style
    | _ => some false
  list? p :=
    match p.target with
    | .sequence _ items => some (items.map p.move)
    | node => if YamlPlace.isEmpty node then some [] else none
  word? p :=
    match p.target with
    | .scalar properties text style =>
      match properties.tag.bind Yaml.Tag.ownName? with
      | none => some text
      | some name => if YamlPlace.isNull text style then some name else none
    | _ => none
  fields? names p :=
    match p.target with
    | .mapping _ entries => (p.members? entries).bind (known names)
    | node => if YamlPlace.isEmpty node then some [] else none

end EditorBlocks.Settings
