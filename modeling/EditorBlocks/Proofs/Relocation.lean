import EditorBlocks.Proofs.Contexts

/-!
# Moving a document

The settings of a validation say where the document lies, so that its violations
can be found in a larger one.  Every check is told the place of what it looks at, but
decides nothing by it, and no wording mentions it.  A document that is moved is
therefore told the same as before, at places that begin with the way to it, and it is
read as the same definition.
-/

namespace EditorBlocks.Validation

open Violations

/-- The settings for a document when all that was there is moved below a path. -/
def Context.below (c : Context) (above : Path) : Context := { c with path := above ++ c.path }

/-- What a mode makes of findings does not hang on where they are. -/
theorem reported_path_append (mode : Mode) (outer inner : Path) (vs : Violations) :
    reported mode (outer ++ inner) vs = (reported mode inner vs).under outer := by
  unfold reported
  by_cases hblock : mode.warningsBlock = true
  · rw [if_pos hblock, if_pos hblock, ← under_under, toErrors_under]
  · rw [if_neg hblock, if_neg hblock, under_under]

theorem violations_below (c : Context) (above : Path) (document : Json) :
    (validate (c.below above) document).violations =
      (validate c document).violations.under above := by
  rw [violations_validate, violations_validate]
  exact reported_path_append c.mode above c.path _

theorem definition_below (c : Context) (above : Path) (document : Json) :
    (validate (c.below above) document).definition = (validate c document).definition := by
  have hbuilt : builtDefinition? (c.below above) = builtDefinition? c := by
    funext o
    rw [builtDefinition?_atRoot, builtDefinition?_atRoot c]
    rfl
  have herrors : (validate (c.below above) document).violations.hasErrors =
      (validate c document).violations.hasErrors := by
    rw [violations_below, hasErrors_under]
  calc (validate (c.below above) document).definition
      = if (validate (c.below above) document).violations.hasErrors then none
        else document.object?.bind (builtDefinition? (c.below above)) := rfl
    _ = if (validate c document).violations.hasErrors then none
        else document.object?.bind (builtDefinition? c) := by rw [herrors, hbuilt]

/-- Wherever a document lies, it is told what it is told at the root, in the same
words and in the same order, at the path followed by the place at the root; and
it is read as the same definition. -/
theorem report_moves_with_path (mode : Mode) (extensions mutators : Option Registry)
    (path : Path) (document : Json) :
    let here := validate ⟨mode, extensions, mutators, path⟩ document
    let root := validate ⟨mode, extensions, mutators, []⟩ document
    here.definition = root.definition ∧
      here.violations = root.violations.map fun v => { v with path := path ++ v.path } := by
  intro here root
  have hbelow : Context.below ⟨mode, extensions, mutators, []⟩ path =
      ⟨mode, extensions, mutators, path⟩ := by
    rw [Context.below, List.append_nil]
  have hdefinition := definition_below ⟨mode, extensions, mutators, []⟩ path document
  have hviolations := violations_below ⟨mode, extensions, mutators, []⟩ path document
  rw [hbelow] at hdefinition hviolations
  exact ⟨hdefinition, hviolations⟩

end EditorBlocks.Validation
