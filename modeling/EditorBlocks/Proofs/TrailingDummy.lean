import EditorBlocks.Proofs.Correspondence

/-!
# The dummy input at the end of a message

Every token that matters decides by itself whether the row is open after it, and
the others leave the row as it is.  So a dummy input is added exactly when the
last token that matters leaves its row open.  What matters depends on the kinds
of the arguments, and these are the same in the document and in what is built
from it.
-/

namespace EditorBlocks

open Validation Template

namespace Template

/-- A token that opens or closes a row.  Blank texts do not, nor do placeholders of
which it is not known whether they stand for an input or a field. -/
def Token.matters (isInput : Nat → Option Bool) : Token → Bool
  | .text literal => !Text.isBlank literal
  | .escape => true
  | .placeholder n => (isInput n).isSome
  | .oversized _ => false

/-- Text, a percent sign or a field. -/
inductive Token.NeedsRow (isInput : Nat → Option Bool) : Token → Prop where
  | text (literal : String) : NeedsRow isInput (.text literal)
  | escape : NeedsRow isInput .escape
  | field {n : Nat} (hfield : isInput n = some false) : NeedsRow isInput (.placeholder n)

section

variable {isInput : Nat → Option Bool}

theorem opensRow_of_not_matters {token : Token} (hidle : token.matters isInput = false)
    (row : Bool) : opensRow isInput row token = row := by
  cases token with
  | text literal =>
      have hblank : Text.isBlank literal = true := by
        simpa [Token.matters] using hidle
      simp [opensRow, hblank]
  | escape => contradiction
  | placeholder n =>
      have hunknown : isInput n = none := by
        simpa [Token.matters] using hidle
      simp [opensRow, hunknown]
  | oversized digits => rfl

theorem opensRow_iff_of_matters {token : Token} (hmatters : token.matters isInput = true)
    (row : Bool) : opensRow isInput row token = true ↔ token.NeedsRow isInput := by
  cases token with
  | text literal =>
      have hblank : Text.isBlank literal = false := by
        simpa [Token.matters] using hmatters
      apply iff_of_true
      · simp [opensRow, hblank]
      · exact .text literal
  | escape => exact iff_of_true rfl .escape
  | placeholder n =>
      obtain ⟨input, hinput⟩ := Option.isSome_iff_exists.1 hmatters
      cases input with
      | false =>
          apply iff_of_true
          · simp [opensRow, hinput]
          · exact .field hinput
      | true =>
          apply iff_of_false
          · simp [opensRow, hinput]
          · intro hneeds
            cases hneeds with
            | field hfield => simp [hinput] at hfield
  | oversized digits => contradiction

theorem impliesDummy_concat (tokens : List Token) (token : Token) :
    impliesDummy (tokens ++ [token]) isInput =
      opensRow isInput (impliesDummy tokens isInput) token := by
  simp only [impliesDummy, List.foldl_append, List.foldl_cons, List.foldl_nil]

/-- Of the tokens that matter only the last one counts. -/
theorem impliesDummy_iff_last (tokens : List Token) :
    impliesDummy tokens isInput = true ↔
      ∃ last, (tokens.filter (Token.matters isInput)).getLast? = some last ∧
        last.NeedsRow isInput := by
  induction tokens using List.reverseRecOn with
  | nil => simp [impliesDummy]
  | append_singleton tokens token ih =>
      rw [impliesDummy_concat, List.filter_append]
      cases hmatters : token.matters isInput with
      | false =>
          rw [opensRow_of_not_matters hmatters, List.filter_singleton, hmatters]
          simpa using ih
      | true =>
          rw [opensRow_iff_of_matters hmatters, List.filter_singleton, hmatters]
          simp

end

end Template

namespace Validation

/-- A dummy input ends a message when the last of its tokens that matter is text, a
percent sign or a field, and in every mode the slots of an accepted block have one
exactly where the checks of the document take it to be. -/
theorem dummy_follows_last_token :
    (∀ (tokens : List Token) (isInput : Nat → Option Bool),
      impliesDummy tokens isInput = true ↔
        ∃ last, (tokens.filter (Token.matters isInput)).getLast? = some last ∧
          last.NeedsRow isInput) ∧
    ∀ (c : Context) (document : Json) (d : Definition),
      (validate c document).definition = some d →
        ∃ o : Object, document = .object o ∧ ∀ slot ∈ d.slots,
          (o.get? (messageKey slot.index)).bind Json.string? = some slot.message ∧
            impliesDummy (tokenize slot.message)
              (isInputAt ((entries slot.index o).map argumentKind?)) = slot.impliesDummy := by
  constructor
  · intro tokens isInput
    exact impliesDummy_iff_last tokens
  · intro c document d haccepted
    obtain ⟨o, rfl, -, -, hslots⟩ := slots_of_accepted haccepted
    refine ⟨o, rfl, ?_⟩
    intro slot hmem
    have hreads : ReadsAs c.mode o slot := readsAs_of_mem (hslots ▸ hmem)
    exact ⟨hreads.message, hreads.impliesDummy_eq⟩

/-- Where rules are not checked, a message may name arguments that are not there. -/
theorem dummy_follows_last_token_basic :
    let times := Argument.field "TIMES" none (.number ⟨none, none, none, none⟩)
    let body := Argument.input "BODY" .statement none
    let last := Argument.input "LAST" .dummy none
    let o : Object := [
      ("args0", .list [.object [("name", .string "TIMES"), ("type", .string "field_number")],
        .object [("name", .string "BODY"), ("type", .string "input_statement")]]),
      ("args3", .list [.object [("name", .string "LAST"), ("type", .string "input_dummy")]]),
      ("message0", .string "%2 at%1 %0%7 %99999999999999999999"),
      ("message3", .string "%% %1 "),
      ("type", .string "repeat")]
    let d : Definition :=
      ⟨"repeat", .statement none none,
        [⟨⟨0, by decide⟩, "%2 at%1 %0%7 %99999999999999999999", [times, body], none⟩,
          ⟨⟨3, by decide⟩, "%% %1 ", [last], none⟩],
        none, none, none, none, none, none, none⟩
    (validate ⟨.basic, none, none, []⟩ (.object o)).definition = some d ∧
      d.slots.map Slot.impliesDummy = [true, false] ∧
      ∀ slot ∈ d.slots,
        (o.get? (messageKey slot.index)).bind Json.string? = some slot.message ∧
          impliesDummy (tokenize slot.message)
            (isInputAt ((entries slot.index o).map argumentKind?)) = slot.impliesDummy := by
  intro times body last o d
  have haccepted : (validate ⟨.basic, none, none, []⟩ (.object o)).definition = some d := by
    decide +kernel
  have hdummies : d.slots.map Slot.impliesDummy = [true, false] := by
    decide +kernel
  obtain ⟨members, hobject, hslots⟩ := dummy_follows_last_token.2 _ _ d haccepted
  obtain rfl := Json.object.inj hobject
  exact ⟨haccepted, hdummies, hslots⟩

end Validation

end EditorBlocks
