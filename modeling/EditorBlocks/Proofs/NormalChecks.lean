import EditorBlocks.Proofs.NormalReading
import Mathlib.Data.List.Basic
import Mathlib.Data.List.Flatten

/-!
# Checking a normal form

What is reported for the normal form of a document is part of what is reported
for the document, in every mode and in the same order.  What is dropped only
takes its own warnings along, and no rule can tell a number from its float or an
option from its normal form.
-/

namespace EditorBlocks

open Schema Validation

namespace NormalForm

/-! ## Values -/

@[simp]
theorem admits_asFloat (shape : Shape) (value : Json) :
    shape.admits value.asFloat = shape.admits value := by
  cases value with
  | number n => cases shape <;> rfl
  | _ => rfl

/-- No rule tells a number from the float it becomes. -/
@[simp]
theorem checkValue_asFloat (mode : Mode) (c : Constraint) (value : Json) :
    checkValue mode c value.asFloat = checkValue mode c value := by
  cases value with
  | number n =>
      have hshape : c.shape.admits (.ofFloat n.toFloat) = c.shape.admits (.number n) :=
        admits_asFloat c.shape (.number n)
      have hrules : checkRule mode c.key (.ofFloat n.toFloat) =
          checkRule mode c.key (.number n) := by
        funext rule
        cases rule <;> rfl
      unfold checkValue
      rw [Json.asFloat, hshape, hrules]
      cases c.shape <;> rfl
  | _ => rfl

@[simp]
theorem optionValue?_ofChoice (option : Json) :
    optionValue? (ofChoice option) = optionValue? option := by
  unfold ofChoice
  split <;> rfl

theorem violation_malformedOption_ofChoice (option : Json) (path : Path) :
    (Finding.malformedOption (ofChoice option)).violation path =
      (Finding.malformedOption option).violation path := by
  unfold ofChoice
  split <;> rfl

theorem checkOption_ofChoice (mode : Mode) (options : List Json) (i : Nat)
    (option : Json) :
    checkOption mode (options.map ofChoice) i (ofChoice option) =
      checkOption mode options i option := by
  have hstored : (options.map ofChoice).map optionValue? = options.map optionValue? := by
    simp [Function.comp_def]
  simp only [checkOption, ofJson?_ofChoice, violation_malformedOption_ofChoice, hstored]

theorem checkOptions_map_ofChoice (mode : Mode) (options : List Json) :
    checkOptions mode (options.map ofChoice) = checkOptions mode options := by
  simp [checkOptions, List.zipIdx_map, List.flatMap_map, checkOption_ofChoice]

/-! ## Arguments -/

theorem checkValue_argumentValue {kind : ArgumentKind} {c : Constraint}
    (hc : c ∈ (argument kind).constraints) (mode : Mode) (value : Json) :
    checkValue mode c (argumentValue kind c.key value) = checkValue mode c value := by
  cases kind with
  | number =>
      simp only [argumentValue]
      split
      · exact checkValue_asFloat mode c value
      · rfl
  | dropdown =>
      simp only [argumentValue]
      split
      next hkey =>
        -- Only the list of options has this key.
        obtain rfl : c = .mandatory "options" .options [.nonEmpty, .distinctOptions] := by
          simp only [argument, field, List.mem_cons, List.not_mem_nil, or_false] at hc
          rcases hc with rfl | rfl | rfl
          · exact absurd hkey (by decide)
          · exact absurd hkey (by decide)
          · rfl
        cases value with
        | list options =>
            simp [checkValue, Constraint.mandatory, Shape.admits, Json.isList, Json.mapItems,
              checkOptions_map_ofChoice, checkRule, checkNonEmpty]
        | _ => rfl
      next => rfl
  | _ => rfl

theorem checkConstraint_knownArgument {kind : ArgumentKind} {c : Constraint}
    (hc : c ∈ (argument kind).constraints) (mode : Mode) (o : Object) :
    checkConstraint mode (knownArgument kind o) c = checkConstraint mode o c := by
  rw [checkConstraint_root, checkConstraint_root, get?_knownArgument (isArgumentKey_of_mem hc)]
  cases o.get? c.key with
  | none => rfl
  | some value => simp only [Option.map_some, checkValue_argumentValue hc]

theorem checkJointRule_knownArgument {kind : ArgumentKind} {rule : JointRule}
    (hrule : rule ∈ (argument kind).rules) (o : Object) :
    checkJointRule [] (knownArgument kind o) rule = checkJointRule [] o rule := by
  cases kind with
  | number =>
      have hnumber : ∀ key ∈ boundKeys,
          numberAt? (knownArgument .number o) key = numberAt? o key := by
        intro key hkey
        have hknown : isArgumentKey .number key = true := by
          revert key
          decide
        have hvalue : argumentValue .number key = Json.asFloat := by
          funext value
          simp [argumentValue, hkey]
        rw [numberAt?, numberAt?, get?_knownArgument hknown, hvalue]
        cases o.get? key with
        | none => rfl
        | some value => exact Json.float?_asFloat value
      have hmin := hnumber "min" (by decide)
      have hmax := hnumber "max" (by decide)
      have hvalue := hnumber "value" (by decide)
      cases rule with
      | orderedBounds => simp only [checkJointRule, checkOrderedBounds, hmin, hmax]
      | valueInBounds => simp only [checkJointRule, checkValueInBounds, hmin, hmax, hvalue]
      | defaultTypeListed => simp [argument, field] at hrule
  | «variable» =>
      obtain rfl : rule = .defaultTypeListed := by simpa [argument, field] using hrule
      have hget : ∀ key, isArgumentKey .variable key = true →
          (knownArgument .variable o).get? key = o.get? key := by
        intro key hkey
        have hvalue : argumentValue .variable key = id := rfl
        rw [get?_knownArgument hkey, hvalue, Option.map_id, id]
      simp only [checkJointRule, checkDefaultType, hget "defaultType" (by decide),
        hget "variableTypes" (by decide)]
  | _ => simp [argument, field] at hrule

theorem checkUnknownKeys_refine_sublist (isKnown : String → Bool)
    (keep : String → Bool) (change : String → Json → Json) (o : Object) :
    (checkUnknownKeys [] isKnown (o.refine keep change)).Sublist (checkUnknownKeys [] isKnown o) := by
  unfold checkUnknownKeys
  rw [Object.keys_refine]
  exact (List.filter_sublist.filter _).map _

theorem checkKnownArgument_knownArgument_sublist (mode : Mode) (kind : ArgumentKind)
    (o : Object) :
    (checkKnownArgument mode (knownArgument kind o) (argument kind)).Sublist
      (checkKnownArgument mode o (argument kind)) := by
  have hconstraints : checkConstraints mode (knownArgument kind o) (argument kind).constraints =
      checkConstraints mode o (argument kind).constraints :=
    List.flatMap_congr fun c hc => checkConstraint_knownArgument hc mode o
  have hrules : (argument kind).rules.flatMap (checkJointRule [] (knownArgument kind o)) =
      (argument kind).rules.flatMap (checkJointRule [] o) :=
    List.flatMap_congr fun rule hrule => checkJointRule_knownArgument hrule o
  unfold checkKnownArgument
  rw [hconstraints, hrules]
  refine ((List.Sublist.refl _).append ?_).append (.refl _)
  unfold knownArgument
  split
  · exact .refl _
  · split
    · exact .refl _
    · exact checkUnknownKeys_refine_sublist ..

theorem checkArgument_ofArgument_sublist (mode : Mode) (value : Json) :
    (checkArgument mode (ofArgument value)).Sublist (checkArgument mode value) := by
  unfold ofArgument
  split
  next o kind hkind =>
    simp only [checkArgument, argumentKind?_knownArgument, hkind]
    exact checkKnownArgument_knownArgument_sublist mode kind o
  next => exact .refl _

/-! ## Blocks -/

theorem checkValue_mapItems_ofArgument {c : Constraint} (hshape : c.shape = .arguments)
    (hrules : c.rules = []) (mode : Mode) (value : Json) :
    checkValue mode c (value.mapItems ofArgument) = checkValue mode c value := by
  cases value with
  | list items => simp [checkValue, hshape, hrules, Shape.admits, Json.isList, Json.mapItems]
  | _ => rfl

theorem shape_and_rules_of_argumentsKey {c : Constraint} (hc : c ∈ root)
    (hkey : c.key ∈ slots.map argumentsKey) : c.shape = .arguments ∧ c.rules = [] := by
  revert c
  decide

theorem admits_blockValue {c : Constraint} (hc : c ∈ root) (value : Json) :
    c.shape.admits (blockValue c.key value) = c.shape.admits value := by
  unfold blockValue
  split
  · exact admits_asFloat c.shape value
  · split
    next hkey =>
      rw [(shape_and_rules_of_argumentsKey hc hkey).1]
      cases value <;> rfl
    next => rfl

theorem checkValue_blockValue {c : Constraint} (hc : c ∈ root) (mode : Mode)
    (value : Json) :
    checkValue mode c (blockValue c.key value) = checkValue mode c value := by
  unfold blockValue
  split
  · exact checkValue_asFloat mode c value
  · split
    next hkey =>
      obtain ⟨hshape, hrules⟩ := shape_and_rules_of_argumentsKey hc hkey
      exact checkValue_mapItems_ofArgument hshape hrules mode value
    next => rfl

/-- Dropping a key that is not required only takes the report of its value away. -/
theorem checkConstraint_block_sublist {c : Constraint} (hc : c ∈ root) (mode : Mode)
    (o : Object) (required : Bool) (hrequired : required = true → c.required = true) :
    (checkConstraint mode (block o) { c with required }).Sublist
      (checkConstraint mode o { c with required }) := by
  have hplain : ∀ c ∈ root, c.required = true → c.key ∈ "type" :: plainKeys := by
    decide
  have hvalue : ∀ value, checkValue mode { c with required } (blockValue c.key value) =
      checkValue mode { c with required } value :=
    checkValue_blockValue hc mode
  rw [checkConstraint_root, checkConstraint_root, block, Object.get?_refine]
  by_cases hkeep : keeps o c.key = true
  · cases o.get? c.key <;> simp [hkeep, hvalue]
  · have hoptional : required = false := by
      cases required with
      | false => rfl
      | true => exact absurd (keeps_plain (hplain c hc (hrequired rfl))) hkeep
    simp [hkeep, hoptional]

theorem rootConstraints_block (o : Object) : rootConstraints (block o) = rootConstraints o := by
  unfold rootConstraints
  rw [variant_block]

theorem checkVariant_block (o : Object) : checkVariant [] (block o) = checkVariant [] o := by
  unfold checkVariant
  rw [hasValueKey_block, hasStatementKey_block]

/-- The constraints on a block are those of the table, some of them relaxed. -/
theorem exists_mem_root {o : Object} {c : Constraint} (hc : c ∈ rootConstraints o) :
    ∃ base ∈ root, ∃ required, (required = true → base.required = true) ∧
      c = { base with required } := by
  unfold rootConstraints at hc
  split at hc
  · exact ⟨c, hc, c.required, id, rfl⟩
  · obtain ⟨base, hbase, rfl⟩ := List.mem_map.1 hc
    by_cases hoptional : (valueBlock.find? base.key).isSome = true
    · exact ⟨base, hbase, false, nofun, if_pos hoptional⟩
    · exact ⟨base, hbase, base.required, id, if_neg hoptional⟩

theorem checkConstraints_block_sublist (mode : Mode) (o : Object) :
    (checkConstraints mode (block o) (rootConstraints (block o))).Sublist
      (checkConstraints mode o (rootConstraints o)) := by
  rw [rootConstraints_block]
  refine .flatMap_right _ fun c hc => ?_
  obtain ⟨base, hbase, required, hrequired, rfl⟩ := exists_mem_root hc
  exact checkConstraint_block_sublist hbase mode o required hrequired

theorem rootValue?_block_plain (key : String) (hkey : key ∈ "type" :: plainKeys)
    (hcolour : key ≠ "colour") (o : Object) : rootValue? (block o) key = rootValue? o key := by
  unfold rootValue?
  cases hc : rootConstraint? key with
  | none => rfl
  | some c =>
      have heq := List.find?_some hc
      obtain rfl : c.key = key := of_decide_eq_true heq
      simp [shaped?, get?_block_plain c.key hkey hcolour]

theorem isSome_shaped?_block {c : Constraint} (hc : c ∈ root) (o : Object) :
    (shaped? (block o) c).isSome = (keeps o c.key && (shaped? o c).isSome) := by
  unfold shaped?
  rw [block, Object.get?_refine]
  cases hkeep : keeps o c.key with
  | false => simp
  | true =>
      cases o.get? c.key with
      | none => simp
      | some value => simp [Option.isSome_filter, admits_blockValue hc]

theorem isSome_rootValue?_colour_block (o : Object) :
    (rootValue? (block o) "colour").isSome = (rootValue? o "colour").isSome := by
  have hcolour : rootConstraint? "colour" = some (.optional "colour" .colour [.hueInRange]) := by
    decide
  have hkeep : keeps o "colour" = true := keeps_plain (by decide)
  simp only [rootValue?, hcolour, Option.bind_some]
  rw [isSome_shaped?_block (List.mem_of_find?_eq_some hcolour)]
  simp [Constraint.optional, hkeep]

theorem checkColours_block (mode : Mode) (o : Object) :
    checkColours mode (block o) = checkColours mode o := by
  unfold checkColours
  rw [rootValue?_block_plain "style" (by decide) (by decide), isSome_rootValue?_colour_block]

/-! ## Slots -/

theorem checkEntries_map_ofArgument_sublist (mode : Mode) (i : Fin slotCount)
    (items : List Json) :
    (checkEntries mode i (items.map ofArgument)).Sublist (checkEntries mode i items) := by
  rw [checkEntries_root, checkEntries_root, List.zipIdx_map, List.flatMap_map]
  exact .flatMap_right _ fun _ _ => (checkArgument_ofArgument_sublist mode _).map _

theorem shaped?_align_block {o : Object} {i : Fin slotCount}
    (hmessage : o.has (messageKey i) = true) :
    shaped? (block o) (align i) = shaped? o (align i) := by
  simp [shaped?, align, Constraint.optional, get?_block_alignKey, hmessage]

theorem checkMessage_block {o : Object} {i : Fin slotCount}
    (hmessage : o.has (messageKey i) = true) (message : String) :
    checkMessage [] i (block o) message = checkMessage [] i o message := by
  have hnames : argumentName? ∘ ofArgument = argumentName? :=
    funext argumentName?_ofArgument
  have hkinds : argumentKind? ∘ ofArgument = argumentKind? :=
    funext argumentKind?_ofArgument
  simp only [checkMessage, checkAlign, entries_block hmessage, List.map_map, hnames, hkinds,
    shaped?_align_block hmessage]

theorem checkIdle_block_sublist (i : Fin slotCount) (o : Object) :
    (checkIdle [] i (block o)).Sublist (checkIdle [] i o) := by
  refine .flatMap_right _ fun c hc => ?_
  have hroot : c ∈ root := by
    rcases List.mem_cons.1 hc with rfl | hc
    · simp [root, slots]
    · obtain rfl := List.mem_singleton.1 hc
      simp [root, slots]
  rw [isSome_shaped?_block hroot]
  cases keeps o c.key with
  | true => simp
  | false => exact List.nil_sublist _

/-- A slot keeps its entries and its alignment only where it has a message. -/
theorem checkSlot_block_sublist (mode : Mode) (o : Object) (i : Fin slotCount) :
    (checkSlot mode (block o) i).Sublist (checkSlot mode o i) := by
  unfold checkSlot
  rw [get?_block_messageKey]
  refine List.Sublist.append ?_ ?_
  · cases hmessage : o.has (messageKey i) with
    | true =>
        rw [entries_block hmessage]
        exact checkEntries_map_ofArgument_sublist mode i _
    | false =>
        have hnone : entries i (block o) = [] := by
          simp [entries, get?_block_argumentsKey, hmessage]
        rw [hnone]
        exact List.nil_sublist _
  · cases htext : (o.get? (messageKey i)).bind Json.string? with
    | none => exact checkIdle_block_sublist i o
    | some message =>
        have hmessage : o.has (messageKey i) = true := by
          obtain ⟨value, hvalue, -⟩ := Option.bind_eq_some_iff.1 htext
          rw [Object.has, hvalue, Option.isSome_some]
        simp [checkMessage_block hmessage]

/-! ## Documents -/

theorem checkDocument_ofBlock_sublist (c : Context) (document : Json) :
    (checkDocument c.atRoot (ofBlock document)).Sublist (checkDocument c.atRoot document) := by
  cases document with
  | object o =>
      have hunknown : (checkUnknownKeys [] isRootKey (block o)).Sublist
          (checkUnknownKeys [] isRootKey o) :=
        checkUnknownKeys_refine_sublist ..
      have hslots : (slots.flatMap (checkSlot c.mode (block o))).Sublist
          (slots.flatMap (checkSlot c.mode o)) :=
        .flatMap_right _ fun i _ => checkSlot_block_sublist c.mode o i
      have hconstraints := checkConstraints_block_sublist c.mode o
      simp (disch := decide) only [ofBlock, checkDocument, checkBlock_atRoot, checkVariant_block,
        checkColours_block, checkExtensions, checkMutator, rootValue?_block_plain]
      exact ((((((List.Sublist.refl _).append hconstraints).append hunknown).append
        (.refl _)).append (.refl _)).append (.refl _)).append hslots
  | null | bool | number | string | list => exact .refl _

end NormalForm

end EditorBlocks
