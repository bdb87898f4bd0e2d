import EditorBlocks.Proofs.Reading
import EditorBlocks.Proofs.Shapes
import EditorBlocks.Proofs.Silence

/-!
# Acceptance

A document is accepted exactly when no error is reported for it.  One half is
the last step of the validator, which withholds the definition.  The other half
says that reading a document never fails where no error was reported: arguments,
slots and connections are read one by one, and each reader is total on what the
checks let through.
-/

namespace EditorBlocks

open Schema Validation

namespace Validation

/-! ## Arguments -/

namespace ProperArgument

variable {o : Object} {kind : ArgumentKind}

theorem type (hproper : ProperArgument o kind) :
    o.get? "type" = some (.string kind.name) :=
  type_of_argumentKind? hproper.hasKind

theorem name (hproper : ProperArgument o kind) :
    ∃ name, o.get? "name" = some (.string name) := by
  refine (hproper.meets argumentName ?_).exists_string rfl rfl
  cases kind <;> exact List.mem_cons_self

/-- An argument without errors is read. -/
theorem isSome_ofJson? (hproper : ProperArgument o kind) :
    (Argument.ofJson? (.object o)).isSome := by
  obtain ⟨name, hname⟩ := hproper.name
  have htype := hproper.type
  have hmeets := hproper.meets
  simp only [Argument.ofJson?, Json.object?, hname, htype, Json.string?,
    Option.bind_eq_bind, Option.bind_some, ArgumentKind.ofName?_name]
  cases kind with
  | input kind => rfl
  | checkbox | number | freeForm => rfl
  | dropdown =>
      obtain ⟨value, hvalue, hfits⟩ :=
        (hmeets (.mandatory "options" .options [.nonEmpty, .distinctOptions])
          (by simp [argument, field])).exists_fits rfl
      cases value with
      | list items =>
          have hread : (items.mapM Dropdown.Choice.ofJson?).isSome :=
            isSome_mapM (hfits.options items rfl rfl)
          obtain ⟨choices, hchoices⟩ := Option.isSome_iff_exists.1 hread
          simp_all [FieldContent.ofObject?, Constraint.mandatory, Json.list?]
      | _ => exact absurd hfits.shape (by simp [Constraint.mandatory, Shape.admits, Json.isList])
  | text =>
      obtain ⟨text, htext⟩ :=
        (hmeets (.mandatory "text" .string) (by simp [argument, field])).exists_string rfl rfl
      simp_all [FieldContent.ofObject?, Constraint.mandatory, Json.string?]
  | «variable» =>
      obtain ⟨text, htext⟩ :=
        (hmeets (.mandatory "variable" .string)
          (by simp [argument, field])).exists_string rfl rfl
      obtain ⟨default, hdefault⟩ :=
        (hmeets (.mandatory "defaultType" .string)
          (by simp [argument, field])).exists_string rfl rfl
      obtain ⟨value, hvalue, hfits⟩ :=
        (hmeets (.mandatory "variableTypes" .connectionCheck [.distinctTypes])
          (by simp [argument, field])).exists_fits rfl
      obtain ⟨types, htypes, -⟩ :=
        Option.map_eq_some_iff.1 (ConnectionCheck.map_ofJson? hfits.shape)
      simp_all [FieldContent.ofObject?, Constraint.mandatory, Json.string?]

end ProperArgument

/-! ## Slots and blocks -/

theorem entries_of_get? {o : Object} {i : Fin slotCount} {items : List Json}
    (hvalue : o.get? (argumentsKey i) = some (.list items)) : entries i o = items := by
  rw [entries, hvalue]
  rfl

theorem exists_list_of_mem_entries {o : Object} {i : Fin slotCount} {item : Json}
    (hitem : item ∈ entries i o) :
    ∃ items, o.get? (argumentsKey i) = some (.list items) ∧ item ∈ items := by
  unfold entries at hitem
  cases hvalue : o.get? (argumentsKey i) with
  | none => simp [hvalue] at hitem
  | some value =>
      cases value with
      | list items => exact ⟨items, rfl, by simpa [hvalue, Json.list?] using hitem⟩
      | _ => simp [hvalue, Json.list?] at hitem

namespace ProperBlock

variable {o : Object}

theorem isSome_connections (hproper : ProperBlock o) :
    (Connections.ofObject? (variant o) o).isSome := by
  rw [Connections.ofObject?_variant hproper.exclusive]
  cases houtput : o.get? "output" with
  | none => rfl
  | some output =>
      have hfits := hproper.fits (.mandatory "output" .connectionCheck [.distinctTypes])
        (by simp [root, valueBlock]) output houtput
      obtain ⟨check, hcheck, -⟩ :=
        Option.map_eq_some_iff.1 (ConnectionCheck.map_ofJson? hfits.shape)
      simp [hcheck]

theorem arguments_mem_root (i : Fin slotCount) : Schema.arguments i ∈ root := by
  simp [root, slots]

/-- What is under the key of an argument list is its list of entries. -/
theorem get?_argumentsKey (hproper : ProperBlock o) (i : Fin slotCount) :
    o.get? (argumentsKey i) = none ∧ entries i o = [] ∨
      o.get? (argumentsKey i) = some (.list (entries i o)) := by
  cases hvalue : o.get? (argumentsKey i) with
  | none => exact .inl ⟨rfl, by simp [entries, hvalue]⟩
  | some value =>
      have hfits := hproper.fits _ (arguments_mem_root i) value hvalue
      cases value with
      | list items => exact .inr (by rw [entries_of_get? hvalue])
      | _ => exact absurd hfits.shape (by
          simp [Schema.arguments, Constraint.optional, Shape.admits, Json.isList])

end ProperBlock

/-! ## What is built -/

section Built

variable {here : Context} {o : Object} {i : Fin slotCount}

theorem builtArgument?_of_silent {item : Json}
    (hsilent : (checkArgument here item).hasErrors = false) :
    builtArgument? here item = Argument.ofJson? item := by
  rw [builtArgument?, hsilent, if_neg Bool.false_ne_true]

theorem isSome_builtArgument? {item : Json}
    (hsilent : (checkArgument here item).hasErrors = false) :
    (builtArgument? here item).isSome := by
  obtain ⟨o, kind, rfl, hproper⟩ := properArgument_of_silent hsilent
  rw [builtArgument?_of_silent hsilent]
  exact hproper.isSome_ofJson?

/-- All arguments of a slot without errors are built, so the slot is. -/
theorem exists_arguments_of_silent (hsilent : (checkSlot here o i).hasErrors = false) :
    ∃ arguments, (entries i o).mapM Argument.ofJson? = some arguments ∧
      builtArguments? here i (entries i o) = some arguments := by
  have hentry := silent_entry_of_silent hsilent
  rw [builtArguments?_eq]
  have hread : ((entries i o).mapM (builtArgument? here.mode)).isSome :=
    isSome_mapM fun item hmem => isSome_builtArgument? (hentry item hmem)
  obtain ⟨arguments, harguments⟩ := Option.isSome_iff_exists.1 hread
  have hsame : (entries i o).mapM (builtArgument? here.mode) =
      (entries i o).mapM Argument.ofJson? :=
    mapM_congr fun item hmem => builtArgument?_of_silent (hentry item hmem)
  exact ⟨arguments, hsame ▸ harguments, harguments⟩

theorem slotOutcome_ne_broken (hsilent : (checkSlot here o i).hasErrors = false) :
    slotOutcome here o i ≠ .broken := by
  obtain ⟨arguments, -, harguments⟩ := exists_arguments_of_silent hsilent
  unfold slotOutcome
  cases (o.get? (messageKey i)).bind Json.string? with
  | none => nofun
  | some message => simp [hsilent, harguments]

/-- The slot that is built is the one that the object describes. -/
theorem slot?_slotOutcome (hproper : ProperBlock o)
    (hsilent : (checkSlot here o i).hasErrors = false) :
    Slot.ofObject? o i = some (slotOutcome here o i).slot? := by
  obtain ⟨arguments, hread, hbuilt⟩ := exists_arguments_of_silent hsilent
  unfold Slot.ofObject? slotOutcome
  cases (o.get? (messageKey i)).bind Json.string? with
  | none => rfl
  | some message =>
      rcases hproper.get?_argumentsKey i with ⟨hnone, hempty⟩ | hlist
      · have harguments : arguments = [] := by simpa [hempty] using hread.symm
        simp [hnone, hsilent, hbuilt, harguments, SlotOutcome.slot?]
      · simp [hlist, Json.list?, hread, hsilent, hbuilt, SlotOutcome.slot?]

end Built

theorem silent_slot_of_silent {c : Context} {o : Object}
    (hsilent : (checkBlock c o).hasErrors = false) (i : Fin slotCount) :
    (checkSlot c.mode o i).hasErrors = false := by
  rw [checkBlock, Violations.hasErrors_append, Bool.or_eq_false_iff,
    Violations.hasErrors_flatMap_eq_false_iff] at hsilent
  have hslot := hsilent.2 i (List.mem_finRange i)
  rwa [checkSlot_under, Violations.hasErrors_under] at hslot

theorem ProperBlock.isSome_ofObject? {o : Object} (hproper : ProperBlock o)
    (slots : List Slot) : (Definition.ofObject? (variant o) o slots).isSome := by
  obtain ⟨type, htype⟩ := hproper.hasType
  obtain ⟨connections, hconnections⟩ :=
    Option.isSome_iff_exists.1 hproper.isSome_connections
  simp_all [Definition.ofObject?, blockType, Constraint.mandatory, Json.string?]

theorem builtDefinition?_of_silent {c : Context} {o : Object}
    (hsilent : (checkBlock c o).hasErrors = false) :
    builtDefinition? c o =
      Definition.ofObject? (variant o) o
        (slots.filterMap fun i => (slotOutcome c.mode o i).slot?) := by
  have hbroken : (slots.map (slotOutcome c.mode o)).contains .broken = false := by
    rw [List.contains_eq_mem, decide_eq_false_iff_not, List.mem_map]
    rintro ⟨i, -, hi⟩
    exact slotOutcome_ne_broken (silent_slot_of_silent hsilent i) hi
  have houtcome : slotOutcome c o = slotOutcome c.mode o := funext (slotOutcome_mode c o)
  simp only [builtDefinition?, houtcome, hbroken, hsilent, Bool.or_self, Bool.false_eq_true,
    if_false, List.filterMap_map]
  rfl

theorem isSome_builtDefinition? {c : Context} {o : Object}
    (hsilent : (checkBlock c o).hasErrors = false) : (builtDefinition? c o).isSome := by
  rw [builtDefinition?_of_silent hsilent]
  exact (properBlock_of_silent hsilent).isSome_ofObject? _

/-- Where no error is found, the definition that is built is the one that the
object describes. -/
theorem builtDefinition?_eq_ofJson? {c : Context} {o : Object}
    (hsilent : (checkBlock c o).hasErrors = false) :
    builtDefinition? c o = Definition.ofJson? (.object o) := by
  have hslot : Slot.ofObject? o = fun i => some (slotOutcome c.mode o i).slot? :=
    funext fun i => slot?_slotOutcome (properBlock_of_silent hsilent)
      (silent_slot_of_silent hsilent i)
  have hslots : (List.finRange slotCount).mapM (Slot.ofObject? o) =
      some (slots.map fun i => (slotOutcome c.mode o i).slot?) := by
    rw [hslot]
    exact List.mapM_pure
  rw [builtDefinition?_of_silent hsilent]
  simp only [Definition.ofJson?, Json.object?, hslots, List.filterMap_map,
    Option.bind_eq_bind, Option.bind_some]
  rfl

/-! ## Reports -/

/-- Warnings that block count as errors, so a report without errors means checks
without errors in every mode. -/
theorem silent_of_report {c : Context} {document : Json}
    (hclean : (validate c document).violations.hasErrors = false) :
    (checkDocument c document).hasErrors = false := by
  simp only [validate] at hclean
  split at hclean
  next =>
    rw [Violations.hasErrors_toErrors] at hclean
    have hempty : checkDocument c document = [] := by simpa using hclean
    rw [hempty]
    rfl
  next => exact hclean

theorem exists_silent_object {c : Context} {document : Json}
    (hclean : (validate c document).violations.hasErrors = false) :
    ∃ o, document = .object o ∧ (checkBlock c o).hasErrors = false :=
  exists_object_of_silent (silent_of_report hclean)

/-- What is built in the course of the checks is what is read at once. -/
theorem definition_validate (c : Context) (document : Json) :
    (validate c document).definition =
      if (validate c document).violations.hasErrors then none
      else Definition.ofJson? document := by
  have hbuilt : (validate c document).definition =
      if (validate c document).violations.hasErrors then none
      else document.object?.bind (builtDefinition? c) :=
    rfl
  rw [hbuilt]
  cases hclean : (validate c document).violations.hasErrors with
  | true => rfl
  | false =>
      obtain ⟨o, rfl, hsilent⟩ := exists_silent_object hclean
      exact builtDefinition?_eq_ofJson? hsilent

theorem definition_eq_some_iff {c : Context} {document : Json} {d : Definition} :
    (validate c document).definition = some d ↔
      (validate c document).violations.hasErrors = false ∧
        Definition.ofJson? document = some d := by
  rw [definition_validate]
  cases (validate c document).violations.hasErrors <;> simp

/-- What is known of a document that is accepted in any mode. -/
theorem proper_of_accepted {c : Context} {document : Json} {d : Definition}
    (haccepted : (validate c document).definition = some d) :
    ∃ o, document = .object o ∧ ProperBlock o ∧ Definition.ofJson? (.object o) = some d := by
  obtain ⟨hclean, hread⟩ := definition_eq_some_iff.1 haccepted
  obtain ⟨o, rfl, hsilent⟩ := exists_silent_object hclean
  exact ⟨o, rfl, properBlock_of_silent hsilent, hread⟩

theorem isSome_definition_iff (c : Context) (document : Json) :
    (validate c document).definition.isSome = true ↔
      (validate c document).violations.hasErrors = false := by
  cases hclean : (validate c document).violations.hasErrors with
  | true =>
      rw [definition_validate, hclean]
      simp
  | false =>
      obtain ⟨o, rfl, hsilent⟩ := exists_silent_object hclean
      rw [definition_validate, hclean, if_neg Bool.false_ne_true,
        ← builtDefinition?_eq_ofJson? hsilent]
      simpa using isSome_builtDefinition? hsilent

theorem severity_of_strict {c : Context} (hstrict : c.mode = .strict) (document : Json) :
    ∀ v ∈ (validate c document).violations, v.severity = .error := by
  intro v hv
  simp only [validate, hstrict, Mode.warningsBlock, if_true, Violations.toErrors,
    List.mem_map] at hv
  obtain ⟨found, -, rfl⟩ := hv
  rfl

/-- A document is accepted exactly when its violations hold no error; when
warnings block, that is when it has no violations at all.  No step that builds a
part of a definition gives up where no error was found in that part: neither an
argument, nor a slot, nor the definition. -/
theorem accepted_iff_no_errors (c : Context) (document : Json) :
    ((validate c document).definition.isSome ↔
      ∀ v ∈ (validate c document).violations, v.severity ≠ .error) ∧
    (c.mode = .strict →
      (∀ v ∈ (validate c document).violations, v.severity ≠ .warning) ∧
      ((validate c document).definition.isSome ↔
        (validate c document).violations = [])) ∧
    (∀ here item, (checkArgument here item).hasErrors = false →
      (builtArgument? here item).isSome) ∧
    (∀ here o i, (checkSlot here o i).hasErrors = false →
      slotOutcome here o i ≠ .broken) ∧
    (∀ o, (checkBlock c o).hasErrors = false → (builtDefinition? c o).isSome) := by
  have haccepted : (validate c document).definition.isSome ↔
      ∀ v ∈ (validate c document).violations, v.severity ≠ .error := by
    rw [isSome_definition_iff, Violations.hasErrors_eq_false_iff]
  refine ⟨haccepted, fun hstrict => ⟨?_, ?_⟩, ?_, ?_, ?_⟩
  · intro v hv hwarning
    rw [severity_of_strict hstrict document v hv] at hwarning
    contradiction
  · rw [haccepted, List.eq_nil_iff_forall_not_mem]
    exact forall₂_congr fun v hv => iff_of_false
      (fun hne => hne (severity_of_strict hstrict document v hv)) (fun hnot => hnot)
  · exact fun _ _ => isSome_builtArgument?
  · exact fun _ _ _ => slotOutcome_ne_broken
  · exact fun _ => isSome_builtDefinition?

end Validation

end EditorBlocks
