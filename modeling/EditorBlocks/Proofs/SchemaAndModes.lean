import EditorBlocks.Proofs.BasicMode
import EditorBlocks.Proofs.ExportedSchema
import EditorBlocks.Proofs.IntegerSign
import EditorBlocks.Proofs.KeptRules

/-!
# The exported schema and the modes

The exported schema stands between the modes.  A document that is accepted where
the rules are checked satisfies it, since the schema says nothing that those
checks do not say, and a document that satisfies it is accepted in the basic
mode, since the schema leaves out nothing that the basic checks say.
-/

namespace EditorBlocks

open Schema Validation Violations

namespace Number

theorem zero_atMost {n : Number} (hnegative : ¬n.toFloat < 0.0) :
    (Number.int 0).atMost n = true := by
  have hbelow : n.below (.int 0) = false := by
    cases n with
    | int n =>
        have hsign : ¬n < 0 := fun hneg => hnegative (Float.ofInt_lt_zero_of_neg hneg)
        exact decide_eq_false hsign
    | float x =>
        have hzero : Float.ofInt 0 = 0.0 := by decide +kernel
        change decide (x < Float.ofInt 0) = false
        rw [hzero]
        exact decide_eq_false hnegative
  rw [atMost, hbelow]
  rfl

end Number

namespace Validation

theorem kept_of_silent {mode : Mode} {o : Object} {c : Constraint} {value : Json}
    (hrules : mode.checksRules = true)
    (hsilent : (checkConstraint mode o c).hasErrors = false)
    (hvalue : o.get? c.key = some value) : ∀ rule ∈ c.rules, rule.Kept value := by
  intro rule hrule
  have hchecked := silent_rule hsilent hvalue rule hrule
  cases rule with
  | nonEmpty =>
      rintro rfl
      exact ne_nil_of_nonEmpty hrules hchecked rfl
  | nonNegative =>
      rintro n rfl
      exact Number.zero_atMost (not_negative_of_nonNegative hrules hchecked)
  | oneOf names =>
      have hfits := (meets_of_silent hsilent).fits value hvalue
      exact fun s hs => hfits.listed names s hrule hs
  | distinctOptions | hueInRange | distinctTypes => trivial

theorem conformingArgument_of_silent {mode : Mode} {item : Json}
    (hrules : mode.checksRules = true)
    (hsilent : (checkArgument mode item).hasErrors = false) :
    ∃ members kind, item = .object members ∧ ConformingArgument members kind := by
  obtain ⟨members, kind, rfl, hproper⟩ := properArgument_of_silent hsilent
  refine ⟨members, kind, rfl, hproper, ?_⟩
  intro c hc value hvalue
  have hconstraint := silent_constraint hproper.hasKind hsilent hc
  exact kept_of_silent hrules hconstraint hvalue

theorem conformingBlock_of_silent {c : Context} {o : Object}
    (hrules : c.mode.checksRules = true)
    (hsilent : (checkBlock c o).hasErrors = false) : ConformingBlock o := by
  refine ⟨properBlock_of_silent hsilent, ?_⟩
  intro i item hitem
  have hslot := silent_slot_of_silent hsilent i
  have hentry := silent_entry_of_silent hslot item hitem
  exact conformingArgument_of_silent hrules hentry

theorem satisfies_of_accepted {c : Context} {document : Json}
    (hrules : c.mode.checksRules = true)
    (haccepted : (validate c document).definition.isSome = true) :
    Satisfies exported.toJson document := by
  rw [isSome_definition_iff] at haccepted
  obtain ⟨o, rfl, hsilent⟩ := exists_silent_object haccepted
  rw [satisfies_exported_iff]
  exact ⟨o, rfl, conformingBlock_of_silent hrules hsilent⟩

/-- Without registries the exported schema stands between the modes: it lets
through every document that the strict or the tolerant mode accepts, and the
basic mode accepts what it lets through. -/
theorem exported_between_modes (path : Path) (document : Json) :
    ((validate ⟨.strict, none, none, path⟩ document).definition.isSome = true →
      Satisfies exported.toJson document) ∧
    ((validate ⟨.tolerant, none, none, path⟩ document).definition.isSome = true →
      Satisfies exported.toJson document) ∧
    (Satisfies exported.toJson document →
      (validate ⟨.basic, none, none, path⟩ document).definition.isSome = true) := by
  refine ⟨?_, ?_, ?_⟩
  · exact satisfies_of_accepted rfl
  · exact satisfies_of_accepted rfl
  · intro hsatisfies
    obtain ⟨o, rfl, hconforming⟩ := satisfies_exported_iff.1 hsatisfies
    exact accepted_basic hconforming.toProperBlock path

-- The basic mode takes a dropdown without options, and the schema does not.
example :
    let document := Json.object [
      ("args0", .list [.object [("name", .string "UNIT"), ("options", .list []),
        ("type", .string "field_dropdown")]]),
      ("message0", .string "wait %1"), ("type", .string "wait")]
    (validate ⟨.basic, none, none, []⟩ document).definition.isSome = true ∧
      ¬SatisfiesAt 3 exported.toJson document := by
  decide +kernel

-- The schema knows nothing of placeholders, which every mode but the basic one checks.
example :
    let document := Json.object [("message0", .string "wait %1"), ("type", .string "wait")]
    SatisfiesAt 3 exported.toJson document ∧
      (validate ⟨.tolerant, none, none, []⟩ document).definition = none := by
  decide +kernel

end Validation

end EditorBlocks
