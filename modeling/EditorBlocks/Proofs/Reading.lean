import EditorBlocks.Validation.Block

/-!
# Reading a document at once

The validator builds a definition part by part while it checks.  Here the same
definition is read from the document at once, which says what an accepted document
describes without mention of a check.

Which connections are read is decided by the variant of the block, and the variant
by the keys of both families.  Where the keys are those of one family, the key of the
output decides it alone.
-/

namespace EditorBlocks

open Schema Validation

namespace Slot

/-- Slot `i` of a block, if the block has a message there. -/
def ofObject? (o : Object) (i : Fin slotCount) : Option (Option Slot) :=
  match (o.get? (messageKey i)).bind Json.string? with
  | none => some none
  | some message => do
    let arguments ← match o.get? (argumentsKey i) with
      | none => some []
      | some value => (← value.list?).mapM Argument.ofJson?
    some (some ⟨i, message, arguments,
      ((o.get? (alignKey i)).bind Json.string?).bind Align.ofName?⟩)

end Slot

/-- The definition that a well-formed document describes. -/
def Definition.ofJson? (document : Json) : Option Definition := do
  let o ← document.object?
  let slots ← (List.finRange slotCount).mapM (Slot.ofObject? o)
  ofObject? (variant o) o (slots.filterMap id)

namespace Validation

variable {o : Object}

theorem hasValueKey_eq (o : Object) : hasValueKey o = o.has "output" := by
  simp [hasValueKey, valueBlock, Constraint.mandatory]

theorem hasStatementKey_eq (o : Object) :
    hasStatementKey o = (o.has "previousStatement" || o.has "nextStatement") := by
  simp [hasStatementKey, statementBlock, Constraint.optional]

theorem variant_of_output (hexclusive : ¬(hasValueKey o = true ∧ hasStatementKey o = true))
    (houtput : o.has "output" = true) : variant o = .value := by
  have hvalue : hasValueKey o = true := by rw [hasValueKey_eq, houtput]
  have hstatement : hasStatementKey o = false := by simpa using fun h => hexclusive ⟨hvalue, h⟩
  rw [variant, hvalue, hstatement]
  rfl

theorem variant_of_no_output (houtput : o.has "output" = false) : variant o = .statement := by
  rw [variant, hasValueKey_eq, houtput]
  rfl

theorem has_output_of_variant (hvalue : variant o = .value) : o.has "output" = true := by
  cases houtput : o.has "output" with
  | true => rfl
  | false =>
      rw [variant_of_no_output houtput] at hvalue
      contradiction

end Validation

/-- Where the keys are those of one family, the connections follow the output. -/
theorem Connections.ofObject?_variant {o : Object}
    (hexclusive : ¬(hasValueKey o = true ∧ hasStatementKey o = true)) :
    ofObject? (variant o) o =
      match o.get? "output" with
      | some output => (ConnectionCheck.ofJson? output).map .value
      | none => some (.statement
          ((o.get? "previousStatement").bind ConnectionCheck.ofJson?)
          ((o.get? "nextStatement").bind ConnectionCheck.ofJson?)) := by
  cases houtput : o.get? "output" with
  | some output =>
      rw [variant_of_output hexclusive (by rw [Object.has, houtput, Option.isSome_some])]
      simp only [ofObject?, houtput, Option.bind_some]
  | none =>
      rw [variant_of_no_output (by rw [Object.has, houtput, Option.isSome_none])]
      rfl

end EditorBlocks
