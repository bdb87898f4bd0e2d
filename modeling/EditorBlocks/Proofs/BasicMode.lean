import EditorBlocks.Proofs.Acceptance
import EditorBlocks.Proofs.NormalChecks

/-!
# What the basic mode lets through

The basic mode checks shapes, presence, fixed words and kinds, and nothing else
that is an error.  So a block that is proper in these respects is accepted, as
long as no registry has a say in its extensions and its mutator.
-/

namespace EditorBlocks

open Schema Validation Violations

namespace Validation

theorem hasErrors_violation_of_warning {f : Finding} {path : Path}
    (hwarning : f.severity = .warning) : hasErrors [f.violation path] = false := by
  simp [hasErrors, Violation.isError, Finding.violation, hwarning]

theorem silent_checkOptions {options : List Json}
    (hoptions : ∀ option ∈ options, (Dropdown.Choice.ofJson? option).isSome) :
    (checkOptions Mode.basic options).hasErrors = false := by
  rw [checkOptions, hasErrors_flatMap_eq_false_iff]
  intro entry hentry
  have hmem : entry.1 ∈ options := (List.mem_zipIdx' hentry).2 ▸ List.getElem_mem _
  have hform : ¬(Dropdown.Choice.ofJson? entry.1).isNone = true := by
    rw [Option.isNone_iff_eq_none]
    exact Option.isSome_iff_ne_none.1 (hoptions entry.1 hmem)
  simp only [checkOption]
  rw [if_neg hform]
  rfl

theorem silent_checkRule {key : String} {value : Json} {rule : Rule}
    (hlisted : ∀ names s, rule = .oneOf names → value = .string s → s ∈ names) :
    (checkRule Mode.basic key value rule).hasErrors = false := by
  unfold checkRule
  split
  next names s =>
    rw [checkListed, if_pos (List.contains_iff_mem.2 (hlisted names s rfl rfl))]
    rfl
  next => rfl

theorem silent_checkValue {c : Constraint} {value : Json} (hfits : c.Fits value) :
    (checkValue Mode.basic c value).hasErrors = false := by
  have hshape : ¬(!c.shape.admits value) = true := by
    rw [hfits.shape]
    exact Bool.false_ne_true
  unfold checkValue
  rw [if_neg hshape, hasErrors_append, Bool.or_eq_false_iff]
  constructor
  · split
    next options hoptions => exact silent_checkOptions (hfits.options options hoptions rfl)
    next => rfl
  · rw [hasErrors_flatMap_eq_false_iff]
    intro rule hrule
    apply silent_checkRule
    rintro names s rfl rfl
    exact hfits.listed names s hrule rfl

theorem silent_checkConstraint {c : Constraint} {o : Object} (hmeets : c.Meets o) :
    (checkConstraint Mode.basic o c).hasErrors = false := by
  rw [checkConstraint_root]
  split
  next hnone =>
    have hoptional : ¬c.required = true := by
      intro hrequired
      obtain ⟨value, hvalue⟩ := hmeets.present hrequired
      rw [hnone] at hvalue
      contradiction
    rw [if_neg hoptional]
    rfl
  next value hvalue =>
    rw [hasErrors_under]
    exact silent_checkValue (hmeets.fits value hvalue)

/-- Keys that nobody knows are never more than a warning. -/
theorem silent_checkUnknownKeys (isKnown : String → Bool) (o : Object) :
    (checkUnknownKeys [] isKnown o).hasErrors = false := by
  rw [hasErrors_eq_false_iff]
  intro v hv
  obtain ⟨key, -, rfl⟩ := List.mem_map.1 hv
  exact nofun

theorem silent_checkArgument {o : Object} {kind : ArgumentKind}
    (hproper : ProperArgument o kind) :
    (checkArgument Mode.basic (.object o)).hasErrors = false := by
  simp only [checkArgument, hproper.hasKind, checkKnownArgument, hasErrors_append,
    Bool.or_eq_false_iff]
  refine ⟨⟨?_, ?_⟩, rfl⟩
  · rw [checkConstraints, hasErrors_flatMap_eq_false_iff]
    exact fun c hc => silent_checkConstraint (hproper.meets c hc)
  · split
    · rfl
    · exact silent_checkUnknownKeys _ _

theorem silent_checkIdle (i : Fin slotCount) (o : Object) :
    (checkIdle [] i o).hasErrors = false := by
  rw [checkIdle, hasErrors_flatMap_eq_false_iff]
  intro c _
  split
  · exact hasErrors_violation_of_warning rfl
  · rfl

theorem silent_checkSlot {o : Object} (hproper : ProperBlock o) (i : Fin slotCount) :
    (checkSlot Mode.basic o i).hasErrors = false := by
  rw [checkSlot, hasErrors_append, Bool.or_eq_false_iff]
  constructor
  · rw [checkEntries_root, hasErrors_flatMap_eq_false_iff]
    intro entry hentry
    have hmem : entry.1 ∈ entries i o := (List.mem_zipIdx' hentry).2 ▸ List.getElem_mem _
    obtain ⟨members, kind, hobject, hargument⟩ := hproper.arguments i entry.1 hmem
    rw [hasErrors_under, hobject]
    exact silent_checkArgument hargument
  · split
    · exact silent_checkIdle i o
    · rfl

/-- The output is required only of a block that has one. -/
theorem present_of_required {o : Object} (hproper : ProperBlock o) {c : Constraint}
    (hc : c ∈ rootConstraints o) (hrequired : c.required = true) :
    ∃ value, o.get? c.key = some value := by
  have htype : ∃ value, o.get? "type" = some value := by
    obtain ⟨type, hvalue⟩ := hproper.hasType
    exact ⟨_, hvalue⟩
  unfold rootConstraints at hc
  split at hc
  next hvalueBlock =>
    have hkeys : ∀ c ∈ root, c.required = true → c.key = "type" ∨ c.key = "output" := by
      decide
    rcases hkeys c hc hrequired with hkey | hkey
    · exact hkey ▸ htype
    · rw [hkey]
      exact Option.isSome_iff_exists.1 (has_output_of_variant hvalueBlock)
  next =>
    have hkeys : ∀ base ∈ root, (valueBlock.find? base.key).isSome = false →
        base.required = true → base.key = "type" := by
      decide
    obtain ⟨base, hbase, rfl⟩ := List.mem_map.1 hc
    by_cases hoptional : (valueBlock.find? base.key).isSome = true
    · simp [hoptional] at hrequired
    · rw [if_neg hoptional] at hrequired ⊢
      rw [hkeys base hbase (by simpa using hoptional) hrequired]
      exact htype

theorem meets_rootConstraint {o : Object} (hproper : ProperBlock o) {c : Constraint}
    (hc : c ∈ rootConstraints o) : c.Meets o := by
  refine ⟨present_of_required hproper hc, ?_⟩
  obtain ⟨base, hbase, required, -, rfl⟩ := NormalForm.exists_mem_root hc
  intro value hvalue
  obtain ⟨hshape, hoptions, hlisted⟩ := hproper.fits base hbase value hvalue
  exact ⟨hshape, hoptions, hlisted⟩

theorem checkExtensions_none (o : Object) : checkExtensions [] none o = [] := by
  unfold checkExtensions
  split
  · rfl
  · rw [List.flatMap_eq_nil_iff]
    exact fun _ _ => rfl

theorem checkMutator_none (o : Object) : checkMutator [] none o = [] := by
  unfold checkMutator
  split <;> rfl

theorem silent_checkBlock {o : Object} (hproper : ProperBlock o) :
    (checkBlock Mode.basic o).hasErrors = false := by
  have hvariant : (checkVariant [] o).hasErrors = false := by
    have hnot : ¬(hasValueKey o && hasStatementKey o) = true := by
      simpa using hproper.exclusive
    rw [checkVariant, checkExclusive, if_neg hnot]
    rfl
  have hconstraints : (checkConstraints Mode.basic o (rootConstraints o)).hasErrors = false := by
    rw [checkConstraints, hasErrors_flatMap_eq_false_iff]
    exact fun c hc => silent_checkConstraint (meets_rootConstraint hproper hc)
  have hslots : hasErrors (slots.flatMap (checkSlot Mode.basic o)) = false := by
    rw [hasErrors_flatMap_eq_false_iff]
    exact fun i _ => silent_checkSlot hproper i
  rw [← Context.atRoot_ofMode, checkBlock_atRoot]
  simp only [hasErrors_append, hvariant, hconstraints, hslots,
    silent_checkUnknownKeys, checkExtensions_none, checkMutator_none]
  rfl

/-- Without registries the basic mode accepts every proper block. -/
theorem accepted_basic {o : Object} (hproper : ProperBlock o) (path : Path) :
    (validate ⟨.basic, none, none, path⟩ (.object o)).definition.isSome = true := by
  rw [isSome_definition_iff, violations_validate]
  change (under path (checkBlock Mode.basic o)).hasErrors = false
  rw [hasErrors_under]
  exact silent_checkBlock hproper

end Validation

end EditorBlocks
