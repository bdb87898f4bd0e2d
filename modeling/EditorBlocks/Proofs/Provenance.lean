import EditorBlocks.Proofs.Acceptance
import EditorBlocks.Proofs.ArgumentRendering
import Mathlib.Data.List.Pairwise

/-!
# Where the parts of a definition come from

A definition has one slot for each message of its document, in the order of
their numbers, and every slot is what the document has under its three keys.
The arguments of a slot are read from the entries of its list one by one, and
each has the name and the kind of its entry.
-/

namespace EditorBlocks

open Schema Validation

/-! ## Arguments -/

namespace Argument

/-- What of an argument stands under the keys of its kind. -/
def ContentOf (o : Object) : Argument → Prop
  | .field _ _ content => FieldContent.ofObject? o content.kind = some content
  | .input _ _ check => (o.get? "check").bind ConnectionCheck.ofJson? = check

theorem exists_object_of_ofJson? {item : Json} {a : Argument}
    (hread : ofJson? item = some a) :
    ∃ o, item = .object o ∧ argumentName? (.object o) = some a.name ∧
      argumentKind? (.object o) = some a.kind ∧ a.ContentOf o := by
  cases item with
  | object o =>
      simp only [ofJson?, Json.object?, Option.bind_eq_bind, Option.bind_some,
        Option.bind_eq_some_iff] at hread
      obtain ⟨nameValue, hnameValue, name, hname, typeValue, htypeValue, type, htype, kind,
        hkind, hrest⟩ := hread
      have hnamed : argumentName? (.object o) = some name := by
        simp [argumentName?, Json.object?, argumentName, Constraint.mandatory, hnameValue, hname]
      have hkinded : argumentKind? (.object o) = some kind := by
        simp [argumentKind?, Json.object?, argumentType, Constraint.mandatory, htypeValue, htype,
          hkind]
      refine ⟨o, rfl, ?_⟩
      cases kind with
      | input form =>
          obtain rfl := Option.some.inj hrest
          exact ⟨hnamed, hkinded, rfl⟩
      | _ =>
          obtain ⟨content, hcontent, heq⟩ := Option.bind_eq_some_iff.1 hrest
          obtain rfl := Option.some.inj heq
          have hkindOf := NormalForm.kind_of_ofObject? hcontent
          refine ⟨hnamed, ?_, ?_⟩
          · rw [hkinded, ← hkindOf]
            rfl
          · rw [ContentOf, hkindOf]
            exact hcontent
  | _ => contradiction

theorem isInput_kind (a : Argument) : a.kind.isInput = a.isInput := by
  cases a with
  | input name kind check => rfl
  | field name colour content => cases content <;> rfl

end Argument

/-! ## Slots -/

theorem Definition.slots_of_ofObject? {kind : Variant} {o : Object} {slots : List Slot} {d : Definition}
    (hread : ofObject? kind o slots = some d) : d.slots = slots := by
  simp only [Definition.ofObject?, Option.bind_eq_bind, Option.bind_eq_some_iff,
    Option.some.injEq] at hread
  obtain ⟨-, -, type, -, connections, -, rfl⟩ := hread
  rfl

/-- The settings of a definition are those of its object. -/
structure Definition.SettledBy (d : Definition) (o : Object) : Prop where
  connections : Connections.ofObject? (variant o) o = some d.connections
  style : d.style = (o.get? "style").bind Json.string?
  colour : d.colour = (o.get? "colour").bind Colour.ofJson?
  extensions : d.extensions = (o.get? "extensions").bind Json.strings?
  mutator : d.mutator = (o.get? "mutator").bind Json.string?

theorem Definition.settledBy_of_ofObject? {o : Object} {slots : List Slot} {d : Definition}
    (hread : ofObject? (variant o) o slots = some d) : d.SettledBy o := by
  simp only [Definition.ofObject?, Option.bind_eq_bind, Option.bind_eq_some_iff,
    Option.some.injEq] at hread
  obtain ⟨-, -, type, -, connections, hconnections, rfl⟩ := hread
  exact ⟨hconnections, rfl, rfl, rfl, rfl⟩

namespace Validation

/-- The slot is what the object has under the keys of the slot, and no error is
reported there. -/
structure ReadsAs (mode : Mode) (o : Object) (slot : Slot) : Prop where
  message : (o.get? (messageKey slot.index)).bind Json.string? = some slot.message
  arguments : (entries slot.index o).mapM Argument.ofJson? = some slot.arguments
  align : ((o.get? (alignKey slot.index)).bind Json.string?).bind Align.ofName? = slot.align
  silent : (checkSlot mode o slot.index).hasErrors = false

theorem exists_mem_of_mapM {α β : Type} {f : α → Option β} {xs : List α} {ys : List β}
    (hread : xs.mapM f = some ys) {y : β} (hmem : y ∈ ys) :
    ∃ x ∈ xs, f x = some y := by
  induction xs generalizing ys with
  | nil => simp_all
  | cons x rest ih =>
      simp only [List.mapM_cons, Option.bind_eq_bind, Option.bind_eq_some_iff] at hread
      obtain ⟨z, hz, zs, hzs, heq⟩ := hread
      obtain rfl : z :: zs = ys := Option.some.inj heq
      rcases List.mem_cons.1 hmem with rfl | hrest
      · exact ⟨x, List.mem_cons_self, hz⟩
      · obtain ⟨other, hother, hy⟩ := ih hzs hrest
        exact ⟨other, List.mem_cons_of_mem x hother, hy⟩

/-- Every argument of the slot is the content of an entry without errors. -/
theorem ReadsAs.exists_entry {mode : Mode} {o : Object} {slot : Slot}
    (hreads : ReadsAs mode o slot) {a : Argument} (hmem : a ∈ slot.arguments) :
    ∃ members, .object members ∈ entries slot.index o ∧
      argumentKind? (.object members) = some a.kind ∧ a.ContentOf members ∧
      (checkArgument mode (.object members)).hasErrors = false := by
  obtain ⟨item, hitem, hread⟩ := exists_mem_of_mapM hreads.arguments hmem
  obtain ⟨members, rfl, -, hkind, hcontent⟩ := Argument.exists_object_of_ofJson? hread
  exact ⟨members, hitem, hkind, hcontent, silent_entry_of_silent hreads.silent _ hitem⟩

theorem readsAs_of_built {mode : Mode} {o : Object} {i : Fin slotCount} {slot : Slot}
    (hbuilt : slotOutcome mode o i = .built slot) :
    slot.index = i ∧ ReadsAs mode o slot := by
  unfold slotOutcome at hbuilt
  cases hmessage : (o.get? (messageKey i)).bind Json.string? with
  | none => simp [hmessage] at hbuilt
  | some message =>
      cases hsilent : (checkSlot mode o i).hasErrors with
      | true => simp [hmessage, hsilent] at hbuilt
      | false =>
          obtain ⟨arguments, hread, hargs⟩ := exists_arguments_of_silent hsilent
          simp only [hmessage, hsilent, hargs, Bool.false_eq_true, if_false,
            SlotOutcome.built.injEq] at hbuilt
          subst hbuilt
          exact ⟨rfl, hmessage, hread, rfl, hsilent⟩

/-- An accepted definition is put together from the outcomes of its slots. -/
theorem slots_of_accepted {c : Context} {document : Json} {d : Definition}
    (haccepted : (validate c document).definition = some d) :
    ∃ o, document = .object o ∧ (checkBlock c.atRoot o).hasErrors = false ∧
      Definition.ofObject? (variant o) o d.slots = some d ∧
      d.slots = slots.filterMap fun i => (slotOutcome c.mode o i).slot? := by
  obtain ⟨hclean, hread⟩ := definition_eq_some_iff.1 haccepted
  obtain ⟨o, rfl, hsilent⟩ := exists_silent_object hclean
  have hbuilt : builtDefinition? c o = some d := by
    rw [builtDefinition?_eq_ofJson? hsilent, hread]
  rw [builtDefinition?_of_silent hsilent] at hbuilt
  have hslots := Definition.slots_of_ofObject? hbuilt
  exact ⟨o, rfl, (hasErrors_checkBlock_atRoot c o).trans hsilent, hslots ▸ hbuilt, hslots⟩

/-- Where warnings block, nothing at all is reported for what is accepted. -/
theorem checkDocument_eq_nil_of_strict {c : Context} {document : Json} {d : Definition}
    (hstrict : c.mode = .strict)
    (haccepted : (validate c document).definition = some d) :
    checkDocument c.atRoot document = [] := by
  have hclean := (definition_eq_some_iff.1 haccepted).1
  rw [violations_validate, reported, hstrict, Mode.warningsBlock, if_pos rfl,
    Violations.hasErrors_toErrors] at hclean
  simpa [Violations.under] using hclean

theorem slot?_eq_some_iff {outcome : SlotOutcome} {slot : Slot} :
    outcome.slot? = some slot ↔ outcome = .built slot := by
  cases outcome <;> simp [SlotOutcome.slot?]

theorem readsAs_of_mem {mode : Mode} {o : Object} {slot : Slot}
    (hmem : slot ∈ slots.filterMap fun i => (slotOutcome mode o i).slot?) :
    ReadsAs mode o slot := by
  obtain ⟨i, -, hslot⟩ := List.mem_filterMap.1 hmem
  exact (readsAs_of_built (slot?_eq_some_iff.1 hslot)).2

theorem pairwise_index_slots (mode : Mode) (o : Object) :
    (slots.filterMap fun i => (slotOutcome mode o i).slot?).Pairwise
      fun a b => a.index < b.index := by
  rw [List.pairwise_filterMap]
  refine (List.pairwise_lt_finRange slotCount).imp fun {i j} hlt a ha b hb => ?_
  obtain ⟨rfl, -⟩ := readsAs_of_built (slot?_eq_some_iff.1 ha)
  obtain ⟨rfl, -⟩ := readsAs_of_built (slot?_eq_some_iff.1 hb)
  exact hlt

end Validation

end EditorBlocks
