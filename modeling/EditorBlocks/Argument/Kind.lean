/-!
# Kinds of arguments

An argument of a message is a field, which the user edits or sees, or an input,
which takes other blocks.  Some fields are free in form: their settings are
carried through as they are.
-/

namespace EditorBlocks

inductive InputKind where
  /-- Takes a block that gives a value. -/
  | value
  /-- Takes a stack of statement blocks. -/
  | statement
  /-- Takes nothing and only groups fields. -/
  | dummy
deriving DecidableEq, Repr

inductive FreeFormKind where
  | colour
  | angle
  | date
  | label
  | image
deriving DecidableEq, Repr

inductive ArgumentKind where
  | checkbox
  | dropdown
  | number
  | text
  | variable
  | freeForm (kind : FreeFormKind)
  | input (kind : InputKind)
deriving DecidableEq, Repr

namespace InputKind

def name : InputKind → String
  | .value => "input_value"
  | .statement => "input_statement"
  | .dummy => "input_dummy"

end InputKind

namespace FreeFormKind

def name : FreeFormKind → String
  | .colour => "field_colour"
  | .angle => "field_angle"
  | .date => "field_date"
  | .label => "field_label"
  | .image => "field_image"

end FreeFormKind

namespace ArgumentKind

/-- The value of the `type` key. -/
def name : ArgumentKind → String
  | .checkbox => "field_checkbox"
  | .dropdown => "field_dropdown"
  | .number => "field_number"
  | .text => "field_input"
  | .variable => "field_variable"
  | .freeForm kind => kind.name
  | .input kind => kind.name

def all : List ArgumentKind :=
  [.checkbox, .dropdown, .number, .text, .variable, .freeForm .colour, .freeForm .angle,
    .freeForm .date, .freeForm .label, .freeForm .image, .input .value, .input .statement,
    .input .dummy]

def ofName? (name : String) : Option ArgumentKind := all.find? (·.name = name)

@[simp]
theorem ofName?_name (kind : ArgumentKind) : ofName? kind.name = some kind := by
  cases kind with
  | freeForm kind => cases kind <;> decide
  | input kind => cases kind <;> decide
  | _ => decide

def inputKind? : ArgumentKind → Option InputKind
  | .input kind => some kind
  | _ => none

def isInput (kind : ArgumentKind) : Bool := kind.inputKind?.isSome

def isFreeForm : ArgumentKind → Bool
  | .freeForm _ => true
  | _ => false

end ArgumentKind

end EditorBlocks
