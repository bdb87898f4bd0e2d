import EditorBlocks.Schema.Tables
import EditorBlocks.Validation.Fields

/-!
# Checking arguments

An argument names its kind, and the table of the kind says the rest.  Of an
argument without a known kind only the name is checked.
-/

namespace EditorBlocks.Validation

open Schema

/-- The name of an argument, however broken the rest of it is. -/
def argumentName? (value : Json) : Option String := do
  (← (← value.object?).get? argumentName.key).string?

/-- The kind of an argument, however broken the rest of it is. -/
def argumentKind? (value : Json) : Option ArgumentKind := do
  ArgumentKind.ofName? (← (← (← value.object?).get? argumentType.key).string?)

/-- The number under a key of the object. -/
def numberAt? (o : Object) (key : String) : Option Float := (o.get? key).bind Json.float?

def checkOrderedBounds (path : Path) (o : Object) : Violations :=
  match numberAt? o "min", numberAt? o "max" with
  | some min, some max =>
    if max < min then [(Finding.minAboveMax min max).violation path] else []
  | _, _ => []

def checkValueInBounds (path : Path) (o : Object) : Violations :=
  match numberAt? o "value" with
  | none => []
  | some value =>
    (match numberAt? o "min" with
      | some min => if value < min then [(Finding.belowMin value min).violation path] else []
      | none => []) ++
    (match numberAt? o "max" with
      | some max => if max < value then [(Finding.aboveMax value max).violation path] else []
      | none => [])

def checkDefaultType (path : Path) (o : Object) : Violations :=
  match (o.get? "defaultType").bind Json.string?,
      (o.get? "variableTypes").bind ConnectionCheck.ofJson? with
  | some type, some types =>
    if types.accepts type then []
    else [(Finding.defaultTypeNotListed type types.text).violation (path ++ [.key "defaultType"])]
  | _, _ => []

def checkJointRule (path : Path) (o : Object) : JointRule → Violations
  | .orderedBounds => checkOrderedBounds path o
  | .valueInBounds => checkValueInBounds path o
  | .defaultTypeListed => checkDefaultType path o

/-- An object of a known kind against the table of the kind. -/
def checkKnownArgument (here : Context) (o : Object) (table : Table) : Violations :=
  checkConstraints here o table.constraints ++
  (if table.carriesOthers then []
    else
      checkUnknownKeys here.path
        (fun key => key = argumentType.key || (table.find? key).isSome) o) ++
  (if here.mode.checksRules then table.rules.flatMap (checkJointRule here.path o) else [])

/-- Why the object has no known kind. -/
def unknownKind (o : Object) : Finding :=
  match o.get? argumentType.key with
  | none => .argumentTypeMissing
  | some (.string name) => .unknownArgumentType name
  | some found => .argumentTypeMismatch found

def checkArgument (here : Context) : Json → Violations
  | .object o =>
    match argumentKind? (.object o) with
    | some kind => checkKnownArgument here o (argument kind)
    | none =>
      (unknownKind o).violation (here.child argumentType.key).path ::
        checkConstraint here o argumentName
  | value => [(Finding.notAnArgument value).violation here.path]

/-- The argument of an entry without errors. -/
def builtArgument? (here : Context) (item : Json) : Option Argument :=
  if (checkArgument here item).hasErrors then none else Argument.ofJson? item

end EditorBlocks.Validation
