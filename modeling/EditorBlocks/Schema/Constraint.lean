import EditorBlocks.Json.Basic

/-!
# Constraints

What a document may hold under a key: the shape of the value, whether the key
has to be there, and the rules that the value keeps beyond its shape.
-/

namespace EditorBlocks.Schema

/-- The fundamental shape of a value.  The entries of argument and option lists
have shapes of their own. -/
inductive Shape where
  | string
  | bool
  | number
  | strings
  | connectionCheck
  | arguments
  | options
  | align
  | colour
  | anything
deriving DecidableEq, Repr

namespace Shape

def all : List Shape :=
  [.string, .bool, .number, .strings, .connectionCheck, .arguments, .options, .align, .colour,
    .anything]

def admits : Shape → Json → Bool
  | .string, v | .align, v => v.isString
  | .bool, v => v.isBool
  | .number, v => v.isNumber
  | .strings, .list items => items.all Json.isString
  | .strings, _ => false
  | .connectionCheck, .null | .connectionCheck, .string _ => true
  | .connectionCheck, .list items => items.all Json.isString
  | .connectionCheck, _ => false
  | .arguments, v | .options, v => v.isList
  | .colour, v => v.isString || v.isNumber
  | .anything, _ => true

def describe : Shape → String
  | .string => "a string"
  | .bool => "a boolean"
  | .number => "a number"
  | .strings => "a list of strings"
  | .connectionCheck => "null, a type name or a list of type names"
  | .arguments => "a list of arguments"
  | .options => "a list of [label, value] pairs"
  | .align => "an alignment string"
  | .colour => "a hue number or a colour string"
  | .anything => "any value"

end Shape

/-- A rule for the value of one key. -/
inductive Rule where
  /-- The list has an entry. -/
  | nonEmpty
  /-- No two options store the same value. -/
  | distinctOptions
  | nonNegative
  /-- The number is an angle from 0 to 360 degrees. -/
  | hueInRange
  /-- The list names a type, and none twice. -/
  | distinctTypes
  | oneOf (names : List String)
deriving DecidableEq, Repr

/-- A rule that joins several keys of one object. -/
inductive JointRule where
  /-- `min` is not above `max`. -/
  | orderedBounds
  /-- `value` lies within the bounds. -/
  | valueInBounds
  /-- `defaultType` is one of `variableTypes`. -/
  | defaultTypeListed
deriving DecidableEq, Repr

structure Constraint where
  key : String
  shape : Shape
  required : Bool
  rules : List Rule
deriving DecidableEq, Repr

namespace Constraint

def mandatory (key : String) (shape : Shape) (rules : List Rule := []) : Constraint :=
  ⟨key, shape, true, rules⟩

def optional (key : String) (shape : Shape) (rules : List Rule := []) : Constraint :=
  ⟨key, shape, false, rules⟩

end Constraint

/-- The constraints on one kind of object. -/
structure Table where
  tag : String
  constraints : List Constraint
  rules : List JointRule
  /-- Other keys are carried through, where they are reported elsewhere. -/
  carriesOthers : Bool
deriving DecidableEq, Repr

namespace Table

def find? (t : Table) (key : String) : Option Constraint :=
  t.constraints.find? (·.key = key)

def requiredKeys (t : Table) : List String :=
  (t.constraints.filter (·.required)).map (·.key)

end Table

end EditorBlocks.Schema
