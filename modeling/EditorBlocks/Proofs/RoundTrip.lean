import EditorBlocks.Proofs.NormalChecks
import EditorBlocks.Proofs.Rendering

/-!
# Validating a written definition

A definition that was accepted once is accepted again after it was written.  The
written document is the normal form of the one it came from, so nothing new is
reported for it and the same definition is read.
-/

namespace EditorBlocks.Validation

/-- Whatever is reported for the normal form is reported for the document. -/
theorem violations_normalForm_sublist (c : Context) (document : Json) :
    (validate c (NormalForm.ofBlock document)).violations.Sublist
      (validate c document).violations := by
  have hfound : ((checkDocument c.atRoot (NormalForm.ofBlock document)).under c.path).Sublist
      ((checkDocument c.atRoot document).under c.path) :=
    (NormalForm.checkDocument_ofBlock_sublist c document).map _
  rw [violations_validate, violations_validate, reported, reported]
  split
  · exact hfound.map _
  · exact hfound

theorem accepted_normalForm {c : Context} {document : Json} {d : Definition}
    (haccepted : (validate c document).definition = some d) :
    (validate c (NormalForm.ofBlock document)).definition = some d := by
  obtain ⟨hclean, hread⟩ := definition_eq_some_iff.1 haccepted
  refine definition_eq_some_iff.2 ⟨?_, ?_⟩
  · exact Violations.hasErrors_eq_false_of_sublist
      (violations_normalForm_sublist c document) hclean
  · rw [NormalForm.ofJson?_ofBlock, hread]

/-- A definition survives being written and validated again, in every mode; where
warnings block there is nothing to report. -/
theorem validate_toJson (c : Context) {document : Json} {d : Definition}
    (hordered : document.Ordered) (haccepted : (validate c document).definition = some d) :
    (validate c d.toJson).definition = some d ∧
      (c.mode = .strict → (validate c d.toJson).violations = []) := by
  have hwritten : d.toJson = NormalForm.ofBlock document := by
    obtain ⟨o, rfl, hproper, hread⟩ := proper_of_accepted haccepted
    exact NormalForm.toJson_definition hordered hproper hread
  rw [hwritten]
  refine ⟨accepted_normalForm haccepted, fun hstrict => ?_⟩
  have hclean := (definition_eq_some_iff.1 (accepted_normalForm haccepted)).1
  rw [List.eq_nil_iff_forall_not_mem]
  intro v hv
  exact Violations.hasErrors_eq_false_iff.1 hclean v hv (severity_of_strict hstrict _ v hv)

theorem validate_toJson_strict :
    let document := Json.object [
      ("args0", .list [.object [("name", .string "N"), ("type", .string "field_number"),
        ("value", .number (.int 7))]]),
      ("message0", .string "wait %1"),
      ("output", .null),
      ("type", .string "wait")]
    let bounds : NumberBounds := ⟨some (Float.ofInt 7), none, none, none⟩
    let d : Definition :=
      ⟨"wait", .value .any, [⟨⟨0, by decide⟩, "wait %1", [.field "N" none (.number bounds)],
        none⟩], none, none, none, none, none, none, none⟩
    document.Ordered ∧ (validate ⟨.strict, none, none, []⟩ document).definition = some d ∧
      (validate ⟨.strict, none, none, []⟩ d.toJson).definition = some d ∧
      (validate ⟨.strict, none, none, []⟩ d.toJson).violations = [] := by
  intro document bounds d
  have hordered : document.Ordered := by
    decide +kernel
  have haccepted : (validate ⟨.strict, none, none, []⟩ document).definition = some d := by
    decide +kernel
  obtain ⟨hagain, hstrict⟩ := validate_toJson _ hordered haccepted
  exact ⟨hordered, haccepted, hagain, hstrict rfl⟩

end EditorBlocks.Validation
