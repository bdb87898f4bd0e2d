import EditorBlocks.Block
import EditorBlocks.Schema.Constraint

/-!
# The constraint tables

Which keys a block definition and each kind of argument have, in the order in
which they are checked.
-/

namespace EditorBlocks.Schema

/-! ## Blocks -/

def blockType : Constraint := .mandatory "type" .string

def message (i : Fin slotCount) : Constraint := .optional (messageKey i) .string

def arguments (i : Fin slotCount) : Constraint := .optional (argumentsKey i) .arguments

def align (i : Fin slotCount) : Constraint :=
  .optional (alignKey i) .align [.oneOf (Align.all.map Align.name)]

def slots : List (Fin slotCount) := List.finRange slotCount

/-- Settings of both kinds of blocks. -/
def settings : List Constraint :=
  [.optional "inputsInline" .bool,
    .optional "helpUrl" .string,
    .optional "style" .string,
    .optional "colour" .colour [.hueInRange],
    .optional "tooltip" .string,
    .optional "extensions" .strings,
    .optional "mutator" .string]

def valueBlock : Table :=
  ⟨"value", [.mandatory "output" .connectionCheck [.distinctTypes]], [], false⟩

def statementBlock : Table :=
  ⟨"statement",
    [.optional "previousStatement" .connectionCheck [.distinctTypes],
      .optional "nextStatement" .connectionCheck [.distinctTypes]], [], false⟩

/-- Every key that a block definition may have. -/
def root : List Constraint :=
  [blockType] ++ slots.map message ++ slots.map arguments ++ slots.map align ++ settings ++
    valueBlock.constraints ++ statementBlock.constraints

def rootConstraint? (key : String) : Option Constraint := root.find? (·.key = key)

def isRootKey (key : String) : Bool := root.any (·.key = key)

/-- The object has a key of a value block. -/
def hasValueKey (o : Object) : Bool := valueBlock.constraints.any fun c => o.has c.key

/-- The object has a key of a statement block. -/
def hasStatementKey (o : Object) : Bool := statementBlock.constraints.any fun c => o.has c.key

/-! ## Arguments -/

def argumentType : Constraint := .mandatory "type" .string

def argumentName : Constraint := .mandatory "name" .string

def fieldColour : Constraint := .optional "colour" .string

def field (tag : String) (constraints : List Constraint) (rules : List JointRule := []) : Table :=
  ⟨tag, argumentName :: fieldColour :: constraints, rules, false⟩

/-- The constraints on an argument of a kind, its `type` apart. -/
def argument (kind : ArgumentKind) : Table :=
  match kind with
  | .checkbox => field kind.name [.optional "checked" .bool]
  | .dropdown => field kind.name [.mandatory "options" .options [.nonEmpty, .distinctOptions]]
  | .number =>
    field kind.name
      [.optional "value" .number, .optional "min" .number, .optional "max" .number,
        .optional "precision" .number [.nonNegative]]
      [.orderedBounds, .valueInBounds]
  | .text => field kind.name [.mandatory "text" .string]
  | .variable =>
    field kind.name
      [.mandatory "variable" .string,
        .mandatory "variableTypes" .connectionCheck [.distinctTypes],
        .mandatory "defaultType" .string]
      [.defaultTypeListed]
  | .freeForm _ => ⟨kind.name, [argumentName, fieldColour], [], true⟩
  | .input _ =>
    ⟨kind.name, [argumentName, .optional "check" .connectionCheck [.distinctTypes]], [], false⟩

end EditorBlocks.Schema
