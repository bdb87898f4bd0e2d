import EditorBlocks.Decimal.Layout
import EditorBlocks.Schema.Constraint
import EditorBlocks.Violation.Basic

/-!
# Findings

The causes for which the validator reports a violation, each with its kind, its
severity and its wording.
-/

namespace EditorBlocks.Validation

inductive Finding where
  | notABlock (found : Json)
  | notAnArgument (found : Json)
  | missing (key : String)
  | mismatch (key : String) (expected : Schema.Shape) (found : Json)
  | unknownKey (key : String)
  | cannotCombine (field other : String)
  | colourIgnored
  | emptyList (key : String)
  | negative (key : String) (x : Float)
  | hueOutOfRange (x : Float)
  | notListed (value key : String) (allowed : List String)
  | notRegistered (what name : String)
  | acceptsNothing (key : String)
  | repeatedType (first : Nat)
  | malformedOption (found : Json)
  | repeatedOption (first : Nat)
  | minAboveMax (min max : Float)
  | belowMin (value min : Float)
  | aboveMax (value max : Float)
  | defaultTypeNotListed (type : String) (types : String)
  | argumentTypeMissing
  | argumentTypeMismatch (found : Json)
  | unknownArgumentType (name : String)
  | duplicateName (name : String) (first : Nat)
  /-- `written` is the number as the template has it. -/
  | placeholderOutOfRange (number : Nat) (written : String) (count : Nat) (argumentsKey : String)
  | duplicatePlaceholder (number : Nat)
  | unreferencedArgument (number : Nat) (name : Option String) (messageKey : String)
  | withoutMessage (key messageKey : String)
  | idleAlign (key messageKey : String)
deriving DecidableEq, Repr

namespace Finding

def kind : Finding → Violation.Kind
  | notABlock _ | notAnArgument _ | mismatch .. | malformedOption _ | argumentTypeMismatch _ =>
    .structuralMismatch
  | missing _ | argumentTypeMissing => .missingField
  | unknownKey _ => .unknownField
  | cannotCombine .. | colourIgnored => .exclusiveFields
  | emptyList _ | negative .. | hueOutOfRange _ | acceptsNothing _ | minAboveMax .. | belowMin ..
  | aboveMax .. => .outOfRange
  | notListed .. | notRegistered .. | defaultTypeNotListed .. | unknownArgumentType _ => .notListed
  | repeatedType _ | repeatedOption _ => .repeatedEntry
  | duplicateName .. => .duplicateName
  | placeholderOutOfRange number .. => .placeholderOutOfRange number
  | duplicatePlaceholder number => .duplicatePlaceholder number
  | unreferencedArgument number .. => .unreferencedArgument number
  | withoutMessage .. | idleAlign .. => .withoutEffect

/-- Findings that leave the meaning of a definition clear are warnings, besides
those whose kind is one. -/
def severity : Finding → Severity
  | colourIgnored | acceptsNothing _ | repeatedType _ => .warning
  | f => f.kind.severity

def number (x : Float) : String := Decimal.Layout.message.float x

def detail : Finding → String
  | notABlock found => "a block definition must be an object, found " ++ found.describe
  | notAnArgument found => "an argument must be an object, found " ++ found.describe
  | missing key => "'" ++ key ++ "' is required"
  | mismatch key expected found =>
    "'" ++ key ++ "' must be " ++ expected.describe ++ ", found " ++ found.describe
  | unknownKey key => "'" ++ key ++ "' is not a recognised key"
  | cannotCombine field other => field ++ " cannot be combined with " ++ other
  | colourIgnored => "'colour' is ignored when 'style' is set"
  | emptyList key => key ++ " must have at least one entry"
  | negative key x => key ++ " must not be negative, found " ++ number x
  | hueOutOfRange x => "hue " ++ number x ++ " is outside 0..=360"
  | notListed value key allowed =>
    "'" ++ value ++ "' is not a valid " ++ key ++ ", expected one of: " ++
      ", ".intercalate allowed
  | notRegistered what name => what ++ " '" ++ name ++ "' is not registered"
  | acceptsNothing key => "an empty '" ++ key ++ "' list accepts no type"
  | repeatedType first => "type name repeats entry " ++ toString first
  | malformedOption found =>
    "an option must be a [label, value] pair with a string value, found " ++ found.describe
  | repeatedOption first => "option value repeats option " ++ toString first
  | minAboveMax min max => "min " ++ number min ++ " is greater than max " ++ number max
  | belowMin value min => "value " ++ number value ++ " is below min " ++ number min
  | aboveMax value max => "value " ++ number value ++ " is above max " ++ number max
  | defaultTypeNotListed type types =>
    "default type '" ++ type ++ "' is not one of the variable types (" ++ types ++ ")"
  | argumentTypeMissing => "argument 'type' is required"
  | argumentTypeMismatch found => "argument 'type' must be a string, found " ++ found.describe
  | unknownArgumentType name => "unknown argument type '" ++ name ++ "'"
  | duplicateName name first =>
    "name '" ++ name ++ "' is already used by argument " ++ toString (first + 1)
  | placeholderOutOfRange _ written count argumentsKey =>
    "%" ++ written ++ " is outside 1..=" ++ toString count ++ ", '" ++ argumentsKey ++ "' has " ++
      toString count ++ " argument(s)"
  | duplicatePlaceholder number => "%" ++ toString number ++ " appears more than once"
  | unreferencedArgument number name messageKey =>
    "argument '" ++ name.getD "<unnamed>" ++ "' is never referenced, '" ++ messageKey ++
      "' lacks %" ++ toString number
  | withoutMessage key messageKey =>
    "'" ++ key ++ "' has no effect without '" ++ messageKey ++ "'"
  | idleAlign key messageKey =>
    "'" ++ key ++ "' has no effect: '" ++ messageKey ++ "' does not end with a field or text"

/-- The violation that reports the finding at a place. -/
def violation (f : Finding) (path : Path) : Violation := ⟨path, f.kind, f.detail, f.severity⟩

end Finding

end EditorBlocks.Validation
