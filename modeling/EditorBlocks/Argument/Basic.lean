import EditorBlocks.Argument.Dropdown
import EditorBlocks.Argument.Kind
import EditorBlocks.Connection

/-!
# Arguments

The entries of a slot's argument list: fields and inputs, as they are read from
a document and written back to one.
-/

namespace EditorBlocks

/-- The settings of a number field. -/
structure NumberBounds where
  value : Option Float
  min : Option Float
  max : Option Float
  precision : Option Float
deriving DecidableEq, Repr

namespace NumberBounds

/-- The nearest number within the bounds; the upper one wins. -/
def clamp (bounds : NumberBounds) (x : Float) : Float :=
  let lower := match bounds.min with
    | none => x
    | some min => if x < min then min else x
  match bounds.max with
  | none => lower
  | some max => if max < lower then max else lower

def members (bounds : NumberBounds) : Object :=
  [("value", bounds.value), ("min", bounds.min), ("max", bounds.max),
    ("precision", bounds.precision)].filterMap fun (key, x?) =>
      x?.map fun x => (key, Json.ofFloat x)

end NumberBounds

inductive FieldContent where
  | checkbox (checked : Option Bool)
  | dropdown (options : List Dropdown.Choice)
  | number (bounds : NumberBounds)
  | text (initial : String)
  | variable (name : String) (types : ConnectionCheck) (defaultType : String)
  /-- Every key but `type`, `name` and `colour` is kept as it is. -/
  | freeForm (kind : FreeFormKind) (properties : Object)
deriving DecidableEq, Repr

inductive Argument where
  | field (name : String) (colour : Option String) (content : FieldContent)
  /-- Without a check, an input takes any type, as with one for any type. -/
  | input (name : String) (kind : InputKind) (check : Option ConnectionCheck)
deriving DecidableEq, Repr

namespace FieldContent

def kind : FieldContent → ArgumentKind
  | .checkbox _ => .checkbox
  | .dropdown _ => .dropdown
  | .number _ => .number
  | .text _ => .text
  | .variable .. => .variable
  | .freeForm kind _ => .freeForm kind

def members : FieldContent → Object
  | .checkbox checked => (checked.map fun b => ("checked", Json.bool b)).toList
  | .dropdown options => [("options", .list (options.map Dropdown.Choice.toJson))]
  | .number bounds => bounds.members
  | .text s => [("text", .string s)]
  | .variable name types defaultType =>
    [("variable", .string name), ("variableTypes", types.toJson),
      ("defaultType", .string defaultType)]
  | .freeForm _ properties => properties

/-- The keys that every field has. -/
def sharedKeys : List String := ["type", "name", "colour"]

def ofObject? (o : Object) : ArgumentKind → Option FieldContent
  | .checkbox => some (.checkbox ((o.get? "checked").bind Json.bool?))
  | .dropdown => do
    let items ← (← o.get? "options").list?
    some (.dropdown (← items.mapM Dropdown.Choice.ofJson?))
  | .number =>
    let float? := fun key => (o.get? key).bind Json.float?
    some (.number ⟨float? "value", float? "min", float? "max", float? "precision"⟩)
  | .text => do some (.text (← (← o.get? "text").string?))
  | .variable => do
    let name ← (← o.get? "variable").string?
    let types ← ConnectionCheck.ofJson? (← o.get? "variableTypes")
    some (.variable name types (← (← o.get? "defaultType").string?))
  | .freeForm kind => some (.freeForm kind (o.filter fun m => !sharedKeys.contains m.1))
  | .input _ => none

end FieldContent

namespace Argument

def name : Argument → String
  | .field name .. => name
  | .input name .. => name

def kind : Argument → ArgumentKind
  | .field _ _ content => content.kind
  | .input _ kind _ => .input kind

def isInput : Argument → Bool
  | .field .. => false
  | .input .. => true

def toJson : Argument → Json
  | .field name colour content =>
    .ofMembers ([("type", .string content.kind.name), ("name", .string name)] ++
      (colour.map fun c => ("colour", Json.string c)).toList ++ content.members)
  | .input name kind check =>
    .ofMembers ([("type", .string kind.name), ("name", .string name)] ++
      (check.map fun c => ("check", c.toJson)).toList)

/-- The argument that a well-formed document describes. -/
def ofJson? (value : Json) : Option Argument := do
  let o ← value.object?
  let name ← (← o.get? "name").string?
  match ← ArgumentKind.ofName? (← (← o.get? "type").string?) with
  | .input kind => some (.input name kind ((o.get? "check").bind ConnectionCheck.ofJson?))
  | kind =>
    some (.field name ((o.get? "colour").bind Json.string?) (← FieldContent.ofObject? o kind))

end Argument

/-- Whether an input with this check takes a block with this output. -/
def InputKind.accepts (check : Option ConnectionCheck) (output : ConnectionCheck) : Bool :=
  match check with
  | none => true
  | some check => check.compatible output

end EditorBlocks
