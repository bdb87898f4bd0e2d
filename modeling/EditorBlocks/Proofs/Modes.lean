import EditorBlocks.Proofs.Acceptance
import Mathlib.Data.List.Basic
import Mathlib.Data.List.Flatten

/-!
# The three modes

A check asks its mode one question only: whether the rules beyond shapes are to
be checked.  A mode that says yes reports whatever one that says no reports, in
the same order and with the same severities, and two modes that give the same
answer report the same.  The strict mode differs from the tolerant one in the
last step alone, where its warnings become errors.
-/

namespace EditorBlocks.Validation

open Schema

section Monotone

variable {m n : Mode} (hmn : m.checksRules = true → n.checksRules = true)

include hmn

theorem sublist_of_checksRules (vs : Violations) :
    (if m.checksRules then vs else []).Sublist (if n.checksRules then vs else []) := by
  cases hm : m.checksRules with
  | true => simp [hmn hm]
  | false => exact List.nil_sublist _

theorem checkOption_sublist (options : List Json) (i : Nat) (option : Json) :
    (checkOption m options i option).Sublist (checkOption n options i option) :=
  (List.Sublist.refl _).append (sublist_of_checksRules hmn _)

theorem checkOptions_sublist (options : List Json) :
    (checkOptions m options).Sublist (checkOptions n options) :=
  .flatMap_right _ fun _ _ => checkOption_sublist hmn options _ _

theorem checkRule_sublist (key : String) (value : Json) (rule : Rule) :
    (checkRule m key value rule).Sublist (checkRule n key value rule) := by
  cases hm : m.checksRules with
  | true =>
      have heq : checkRule m key value rule = checkRule n key value rule := by
        unfold checkRule
        simp only [hm, hmn hm]
      exact heq ▸ List.Sublist.refl _
  | false =>
      unfold checkRule
      split
      · exact .refl _
      · simp [hm]

theorem checkValue_sublist (c : Constraint) (value : Json) :
    (checkValue m c value).Sublist (checkValue n c value) := by
  unfold checkValue
  split
  · exact .refl _
  · refine List.Sublist.append ?_ (.flatMap_right _ fun _ _ =>
      checkRule_sublist hmn _ _ _)
    split
    · exact checkOptions_sublist hmn _
    · exact .refl _

theorem checkConstraint_sublist (o : Object) (c : Constraint) :
    (checkConstraint m o c).Sublist (checkConstraint n o c) := by
  rw [checkConstraint_root, checkConstraint_root]
  split
  · exact .refl _
  · exact (checkValue_sublist hmn c _).map _

theorem checkConstraints_sublist (o : Object) (cs : List Constraint) :
    (checkConstraints m o cs).Sublist (checkConstraints n o cs) :=
  .flatMap_right _ fun _ _ => checkConstraint_sublist hmn o _

theorem checkKnownArgument_sublist (o : Object) (table : Table) :
    (checkKnownArgument m o table).Sublist (checkKnownArgument n o table) :=
  ((checkConstraints_sublist hmn o _).append (.refl _)).append
    (sublist_of_checksRules hmn _)

theorem checkArgument_sublist (item : Json) :
    (checkArgument m item).Sublist (checkArgument n item) := by
  cases item with
  | object o =>
      simp only [checkArgument]
      split
      · exact checkKnownArgument_sublist hmn o _
      · exact (checkConstraint_sublist hmn o _).cons_cons _
  | null | bool | number | string | list => exact .refl _

theorem checkEntries_sublist (i : Fin slotCount) (items : List Json) :
    (checkEntries m i items).Sublist (checkEntries n i items) := by
  rw [checkEntries_root, checkEntries_root]
  exact .flatMap_right _ fun _ _ => (checkArgument_sublist hmn _).map _

theorem checkSlot_sublist (o : Object) (i : Fin slotCount) :
    (checkSlot m o i).Sublist (checkSlot n o i) := by
  refine (checkEntries_sublist hmn i _).append ?_
  split
  · exact .refl _
  · exact sublist_of_checksRules hmn _

theorem checkColours_sublist (o : Object) :
    (checkColours m o).Sublist (checkColours n o) := by
  cases hm : m.checksRules with
  | true => simp [checkColours, hm, hmn hm]
  | false => simp [checkColours, hm]

theorem checkDocument_sublist (extensions mutators : Option Registry) (path : Path)
    (document : Json) :
    (checkDocument (Context.atRoot ⟨m, extensions, mutators, path⟩) document).Sublist
      (checkDocument (Context.atRoot ⟨n, extensions, mutators, path⟩) document) := by
  cases document with
  | object o =>
      have hconstraints := checkConstraints_sublist hmn o (rootConstraints o)
      have hcolours := checkColours_sublist hmn o
      have hslots : (slots.flatMap (checkSlot m o)).Sublist
          (slots.flatMap (checkSlot n o)) :=
        .flatMap_right _ fun i _ => checkSlot_sublist hmn o i
      simp only [checkDocument, checkBlock_atRoot]
      exact ((((((List.Sublist.refl _).append hconstraints).append (.refl _)).append
        hcolours).append (.refl _)).append (.refl _)).append hslots
  | null | bool | number | string | list => exact .refl _

end Monotone

/-- The checks of the strict and of the tolerant mode are the same. -/
theorem checkDocument_strict (extensions mutators : Option Registry) (path : Path)
    (document : Json) :
    checkDocument (Context.atRoot ⟨.strict, extensions, mutators, path⟩) document =
      checkDocument (Context.atRoot ⟨.tolerant, extensions, mutators, path⟩) document :=
  (checkDocument_sublist (m := .strict) (n := .tolerant) (fun _ => rfl) ..).antisymm
    (checkDocument_sublist (m := .tolerant) (n := .strict) (fun _ => rfl) ..)

theorem violations_strict (extensions mutators : Option Registry) (path : Path)
    (document : Json) :
    (validate ⟨.strict, extensions, mutators, path⟩ document).violations =
      (validate ⟨.tolerant, extensions, mutators, path⟩ document).violations.toErrors := by
  rw [violations_validate, violations_validate, checkDocument_strict]
  rfl

theorem violations_basic_sublist (extensions mutators : Option Registry) (path : Path)
    (document : Json) :
    (validate ⟨.basic, extensions, mutators, path⟩ document).violations.Sublist
      (validate ⟨.tolerant, extensions, mutators, path⟩ document).violations := by
  rw [violations_validate, violations_validate]
  have hmn : Mode.basic.checksRules = true → Mode.tolerant.checksRules = true := by
    decide
  exact (checkDocument_sublist hmn ..).map _

/-- The strict violations are the tolerant ones as errors, and the basic ones are
some of the tolerant ones.  So each mode accepts what a stricter one accepts, as
the same definition, and the strict mode accepts what the tolerant one has
nothing to say about. -/
theorem modes_form_chain (extensions mutators : Option Registry) (path : Path)
    (document : Json) :
    let strict := validate ⟨.strict, extensions, mutators, path⟩ document
    let tolerant := validate ⟨.tolerant, extensions, mutators, path⟩ document
    let basic := validate ⟨.basic, extensions, mutators, path⟩ document
    strict.violations = tolerant.violations.map (fun v => { v with severity := .error }) ∧
      basic.violations.Sublist tolerant.violations ∧
      (∀ d, strict.definition = some d → tolerant.definition = some d) ∧
      (∀ d, tolerant.definition = some d → basic.definition = some d) ∧
      (strict.definition.isSome ↔
        tolerant.definition.isSome ∧ tolerant.violations = []) := by
  intro strict tolerant basic
  have hstrict : strict.violations = tolerant.violations.toErrors :=
    violations_strict extensions mutators path document
  have hbasic : basic.violations.Sublist tolerant.violations :=
    violations_basic_sublist extensions mutators path document
  -- After promotion there is no error only if there was nothing to promote.
  have hclean : strict.violations.hasErrors = false ↔ tolerant.violations = [] := by
    rw [hstrict, Violations.hasErrors_toErrors]
    simp
  refine ⟨hstrict, hbasic, fun d hd => ?_, fun d hd => ?_, ?_⟩
  · obtain ⟨hnone, hread⟩ := definition_eq_some_iff.1 hd
    refine definition_eq_some_iff.2 ⟨?_, hread⟩
    change tolerant.violations.hasErrors = false
    rw [hclean.1 hnone]
    rfl
  · obtain ⟨hnone, hread⟩ := definition_eq_some_iff.1 hd
    exact definition_eq_some_iff.2
      ⟨Violations.hasErrors_eq_false_of_sublist hbasic hnone, hread⟩
  · rw [isSome_definition_iff, hclean]
    refine ⟨fun hempty => ⟨?_, hempty⟩, fun h => h.2⟩
    rw [isSome_definition_iff]
    change tolerant.violations.hasErrors = false
    rw [hempty]
    rfl

end EditorBlocks.Validation
