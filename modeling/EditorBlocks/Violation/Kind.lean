import EditorBlocks.Json.Basic

/-!
# Kinds of violations

The classes that violations are sorted into, each with a stable code.  Three of
them carry the number of a placeholder or an argument, counted from one.
-/

namespace EditorBlocks

/-- How much a violation matters. -/
inductive Severity where
  | warning
  | error
deriving DecidableEq, Repr

namespace Severity

def name : Severity → String
  | .warning => "warning"
  | .error => "error"

def ofName? : String → Option Severity
  | "warning" => some .warning
  | "error" => some .error
  | _ => none

end Severity

inductive Violation.Kind where
  | structuralMismatch
  | missingField
  | exclusiveFields
  | placeholderOutOfRange (placeholder : Nat)
  | duplicatePlaceholder (placeholder : Nat)
  | unreferencedArgument (argument : Nat)
  | outOfRange
  | notListed
  | duplicateName
  | repeatedEntry
  | unknownField
  | withoutEffect
deriving DecidableEq, Repr

namespace Violation.Kind

def code : Kind → String
  | .structuralMismatch => "structural_mismatch"
  | .missingField => "missing_required_field"
  | .exclusiveFields => "mutually_exclusive_fields"
  | .placeholderOutOfRange _ => "placeholder_out_of_range"
  | .duplicatePlaceholder _ => "duplicate_placeholder"
  | .unreferencedArgument _ => "unreferenced_argument"
  | .outOfRange => "range_violation"
  | .notListed => "invalid_enum_value"
  | .duplicateName => "duplicate_name"
  | .repeatedEntry => "non_unique_option"
  | .unknownField => "unknown_field"
  | .withoutEffect => "unused_configuration"

/-- The number that some kinds carry. -/
def number? : Kind → Option Nat
  | .placeholderOutOfRange n | .duplicatePlaceholder n | .unreferencedArgument n => some n
  | _ => none

def text (kind : Kind) : String :=
  match kind.number? with
  | none => kind.code
  | some n => kind.code ++ "(" ++ toString n ++ ")"

/-- Settings that are merely idle are warnings unless a stricter view is taken. -/
def severity : Kind → Severity
  | .unknownField | .withoutEffect => .warning
  | _ => .error

/-- The members that stand for the kind in a report. -/
def members (kind : Kind) : Object :=
  ("kind", .string kind.code) ::
    match kind.number? with
    | none => []
    | some n => [("index", .ofNat n)]

/-- The kinds without a number. -/
def plain : List Kind :=
  [.structuralMismatch, .missingField, .exclusiveFields, .outOfRange, .notListed, .duplicateName,
    .repeatedEntry, .unknownField, .withoutEffect]

def numbered : List (Nat → Kind) :=
  [.placeholderOutOfRange, .duplicatePlaceholder, .unreferencedArgument]

/-- The largest number a kind may carry. -/
def numberLimit : Nat := 0xffffffffffffffff

def ofCode? (code : String) (index : Option Json) : Option Kind :=
  match plain.find? (·.code = code) with
  | some kind =>
    match index with
    | none | some .null => some kind
    | some _ => none
  | none => do
    let kind ← numbered.find? (fun kind => (kind 0).code = code)
    match index with
    | some (.number (.int n)) =>
      if 0 ≤ n ∧ n ≤ numberLimit then some (kind n.toNat) else none
    | _ => none

/-- A code is a word, or the one member of an object that holds nothing. -/
def code? : Json → Option String
  | .string code | .object [(code, .null)] => some code
  | _ => none

/-- Reads back what `members` writes, passing over other members, or the code
and the number of a kind as a list of the two. -/
def ofJson? : Json → Option Kind
  | .object o => do ofCode? (← code? (← Object.get? o "kind")) (Object.get? o "index")
  | .list [code, index] => do ofCode? (← code? code) (some index)
  | _ => none

end Violation.Kind

end EditorBlocks
