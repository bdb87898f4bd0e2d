import EditorBlocks.Proofs.NormalForm
import EditorBlocks.Proofs.Reading
import EditorBlocks.Proofs.Silence

/-!
# Reading a normal form

A document and its normal form are read as the same definition, whether or not
they are accepted.  Keys that are dropped are never asked for or read as if they
were not there, and a number is read as the float that it becomes.
-/

namespace EditorBlocks

open Schema Validation

namespace Json

@[simp]
theorem float?_asFloat (value : Json) : value.asFloat.float? = value.float? := by
  cases value <;> rfl

theorem list?_mapItems (change : Json → Json) (value : Json) :
    (value.mapItems change).list? = value.list?.map (List.map change) := by
  cases value <;> rfl

end Json

@[simp]
theorem Colour.ofJson?_asFloat (value : Json) :
    Colour.ofJson? value.asFloat = Colour.ofJson? value := by
  cases value <;> rfl

namespace NormalForm

/-! ## Dropdown options -/

theorem ofObject?_image (o : Object) :
    Dropdown.Image.ofObject? (image o) = Dropdown.Image.ofObject? o := by
  have hsize : imageValue "width" = Json.asFloat ∧ imageValue "height" = Json.asFloat :=
    ⟨rfl, rfl⟩
  have hkept : imageValue "src" = id ∧ imageValue "alt" = id := ⟨rfl, rfl⟩
  have hget : ∀ key ∈ imageKeys, (image o).get? key = (o.get? key).map (imageValue key) := by
    intro key hkey
    rw [image, Object.get?_refine, if_pos (List.contains_iff_mem.2 hkey)]
  simp (disch := decide) only [Dropdown.Image.ofObject?, hget, hsize, hkept, Option.map_id_fun,
    id, Option.bind_eq_bind, Option.bind_map, Function.comp_def, Json.float?_asFloat]

theorem ofJson?_ofLabel (value : Json) :
    Dropdown.Label.ofJson? (ofLabel value) = Dropdown.Label.ofJson? value := by
  cases value with
  | object o =>
      simp [ofLabel, Dropdown.Label.ofJson?, ofObject?_image]
  | _ => rfl

@[simp]
theorem ofJson?_ofChoice (value : Json) :
    Dropdown.Choice.ofJson? (ofChoice value) = Dropdown.Choice.ofJson? value := by
  unfold ofChoice
  split
  · simp [Dropdown.Choice.ofJson?, ofJson?_ofLabel]
  · rfl

/-! ## Arguments -/

theorem isArgumentKey_of_mem {kind : ArgumentKind} {c : Constraint}
    (hc : c ∈ (argument kind).constraints) : isArgumentKey kind c.key = true := by
  have hfound : ((argument kind).find? c.key).isSome = true :=
    List.find?_isSome.2 ⟨c, hc, by simp⟩
  simp [isArgumentKey, hfound]

theorem get?_knownArgument {kind : ArgumentKind} {key : String}
    (hkey : isArgumentKey kind key = true) (o : Object) :
    (knownArgument kind o).get? key = (o.get? key).map (argumentValue kind key) := by
  unfold knownArgument
  split
  next hfree =>
    cases kind with
    | freeForm kind => exact Option.map_id.symm ▸ rfl
    | _ => contradiction
  next => rw [Object.get?_refine, if_pos hkey]

theorem argumentValue_type (kind : ArgumentKind) : argumentValue kind "type" = id := by
  funext value
  cases kind <;> simp [argumentValue, boundKeys]

theorem argumentValue_name (kind : ArgumentKind) : argumentValue kind "name" = id := by
  funext value
  cases kind <;> simp [argumentValue, boundKeys]

@[simp]
theorem get?_type_knownArgument (kind : ArgumentKind) (o : Object) :
    (knownArgument kind o).get? "type" = o.get? "type" := by
  rw [get?_knownArgument (by simp [isArgumentKey]), argumentValue_type, Option.map_id, id]

@[simp]
theorem get?_name_knownArgument (kind : ArgumentKind) (o : Object) :
    (knownArgument kind o).get? "name" = o.get? "name" := by
  have hname : argumentName ∈ (argument kind).constraints := by
    cases kind <;> exact List.mem_cons_self
  have hkey : isArgumentKey kind "name" = true := isArgumentKey_of_mem hname
  rw [get?_knownArgument hkey, argumentValue_name, Option.map_id, id]

@[simp]
theorem argumentKind?_knownArgument (kind : ArgumentKind) (o : Object) :
    argumentKind? (.object (knownArgument kind o)) = argumentKind? (.object o) := by
  simp [argumentKind?, argumentType, Constraint.mandatory, Json.object?]

@[simp]
theorem argumentKind?_ofArgument (value : Json) :
    argumentKind? (ofArgument value) = argumentKind? value := by
  unfold ofArgument
  split
  · simp
  · rfl

@[simp]
theorem argumentName?_ofArgument (value : Json) :
    argumentName? (ofArgument value) = argumentName? value := by
  unfold ofArgument
  split
  · simp [argumentName?, argumentName, Constraint.mandatory, Json.object?]
  · rfl

theorem ofObject?_knownArgument (kind : ArgumentKind) (o : Object) :
    FieldContent.ofObject? (knownArgument kind o) kind =
      FieldContent.ofObject? o kind := by
  cases kind with
  | freeForm kind => rfl
  | input kind => rfl
  | _ =>
      simp [FieldContent.ofObject?, knownArgument, ArgumentKind.isFreeForm, isArgumentKey,
        argument, field, Table.find?, argumentName, fieldColour, Constraint.mandatory,
        Constraint.optional, argumentValue, boundKeys, Json.list?_mapItems,
        Option.bind_map, Function.comp_def]

theorem argumentValue_colour (kind : ArgumentKind) : argumentValue kind "colour" = id := by
  funext value
  cases kind <;> simp [argumentValue, boundKeys]

theorem get?_colour_knownArgument {kind : ArgumentKind} (hfield : kind.isInput = false)
    (o : Object) : (knownArgument kind o).get? "colour" = o.get? "colour" := by
  have hcolour : fieldColour ∈ (argument kind).constraints := by
    cases kind with
    | input kind => contradiction
    | _ => exact List.mem_cons_of_mem _ List.mem_cons_self
  have hkey : isArgumentKey kind "colour" = true := isArgumentKey_of_mem hcolour
  rw [get?_knownArgument hkey, argumentValue_colour, Option.map_id, id]

theorem get?_check_knownArgument (kind : InputKind) (o : Object) :
    (knownArgument (.input kind) o).get? "check" = o.get? "check" := by
  have hvalue : argumentValue (.input kind) "check" = id := rfl
  simp [knownArgument, ArgumentKind.isFreeForm, isArgumentKey, argument, Table.find?,
    Constraint.optional, hvalue]

@[simp]
theorem ofJson?_ofArgument (value : Json) :
    Argument.ofJson? (ofArgument value) = Argument.ofJson? value := by
  unfold ofArgument
  split
  next o kind hkind =>
    have htype := type_of_argumentKind? hkind
    have hcontent := ofObject?_knownArgument kind o
    have hcolour : kind.isInput = false →
        (knownArgument kind o).get? "colour" = Object.get? o "colour" :=
      fun hfield => get?_colour_knownArgument hfield o
    simp only [Argument.ofJson?, Json.object?, get?_type_knownArgument,
      get?_name_knownArgument, htype, Json.string?, Option.bind_eq_bind, Option.bind_some,
      ArgumentKind.ofName?_name]
    cases kind with
    | input kind => rw [get?_check_knownArgument]
    | _ => simp only [hcolour rfl, hcontent]
  next => rfl

/-! ## Blocks -/

theorem blockValue_of_ne {key : String} (hcolour : key ≠ "colour")
    (harguments : ∀ i, key ≠ argumentsKey i) : blockValue key = id := by
  funext value
  have hslot : key ∉ slots.map argumentsKey := by
    intro hmem
    obtain ⟨i, -, heq⟩ := List.mem_map.1 hmem
    exact harguments i heq.symm
  rw [blockValue, if_neg hcolour, if_neg hslot, id]

theorem get?_block_plain (key : String) (hkey : key ∈ "type" :: plainKeys)
    (hcolour : key ≠ "colour") (o : Object) : (block o).get? key = o.get? key := by
  have harguments : ∀ i, key ≠ argumentsKey i := by
    intro i heq
    exact plainKeys_disjoint key hkey i (by simp [slotKeys, heq])
  rw [block, Object.get?_refine, if_pos (keeps_plain hkey),
    blockValue_of_ne hcolour harguments, Option.map_id, id]

theorem get?_block_colour (o : Object) :
    (block o).get? "colour" = (o.get? "colour").map Json.asFloat := by
  rw [block, Object.get?_refine, if_pos (keeps_plain (by decide))]
  rfl

theorem colour_ne_slotKey {i : Fin slotCount} {key : String} (hkey : key ∈ slotKeys i) :
    key ≠ "colour" := by
  rintro rfl
  exact plainKeys_disjoint "colour" (by decide) i hkey

@[simp]
theorem get?_block_messageKey (o : Object) (i : Fin slotCount) :
    (block o).get? (messageKey i) = o.get? (messageKey i) := by
  have hcolour : messageKey i ≠ "colour" := colour_ne_slotKey (i := i) (by simp [slotKeys])
  rw [block, Object.get?_refine, if_pos (keeps_messageKey o i),
    blockValue_of_ne hcolour (messageKey_ne_argumentsKey i), Option.map_id, id]

theorem get?_block_alignKey (o : Object) (i : Fin slotCount) :
    (block o).get? (alignKey i) =
      if o.has (messageKey i) then o.get? (alignKey i) else none := by
  have hcolour : alignKey i ≠ "colour" := colour_ne_slotKey (i := i) (by simp [slotKeys])
  rw [block, Object.get?_refine, keeps_alignKey,
    blockValue_of_ne hcolour fun j => (argumentsKey_ne_alignKey j i).symm, Option.map_id, id]

theorem blockValue_argumentsKey (i : Fin slotCount) :
    blockValue (argumentsKey i) = Json.mapItems ofArgument := by
  funext value
  have hcolour : argumentsKey i ≠ "colour" := colour_ne_slotKey (i := i) (by simp [slotKeys])
  have hslot : argumentsKey i ∈ slots.map argumentsKey :=
    List.mem_map_of_mem (List.mem_finRange i)
  rw [blockValue, if_neg hcolour, if_pos hslot]

theorem get?_block_argumentsKey (o : Object) (i : Fin slotCount) :
    (block o).get? (argumentsKey i) =
      if o.has (messageKey i) = true ∧ o.get? (argumentsKey i) ≠ some (.list []) then
        (o.get? (argumentsKey i)).map (Json.mapItems ofArgument)
      else none := by
  rw [block, Object.get?_refine, blockValue_argumentsKey]
  exact if_congr (keeps_argumentsKey o i) rfl rfl

/-- The entries of a slot are those of the document, in normal form. -/
theorem entries_block {o : Object} {i : Fin slotCount}
    (hmessage : o.has (messageKey i) = true) :
    entries i (block o) = (entries i o).map ofArgument := by
  unfold entries
  rw [get?_block_argumentsKey]
  by_cases hempty : o.get? (argumentsKey i) = some (.list [])
  · simp [hempty, Json.list?]
  · rw [if_pos ⟨hmessage, hempty⟩]
    cases o.get? (argumentsKey i) with
    | none => rfl
    | some value => cases value <;> rfl

/-- Slots are read from what is under their keys; an empty list of arguments is
read like none. -/
theorem ofObject?_slot_block (o : Object) (i : Fin slotCount) :
    Slot.ofObject? (block o) i = Slot.ofObject? o i := by
  unfold Slot.ofObject?
  rw [get?_block_messageKey]
  cases hmessage : (o.get? (messageKey i)).bind Json.string? with
  | none => rfl
  | some message =>
      obtain ⟨value, hvalue, -⟩ := Option.bind_eq_some_iff.1 hmessage
      have hhas : o.has (messageKey i) = true := by simp [Object.has, hvalue]
      rw [get?_block_alignKey, if_pos hhas, get?_block_argumentsKey]
      cases harguments : o.get? (argumentsKey i) with
      | none => simp
      | some found =>
          cases found with
          | list items =>
              cases items with
              | nil => simp [hhas, Json.list?]
              | cons item rest =>
                  simp [hhas, Json.list?, Json.mapItems, Function.comp_def]
          | _ => simp [hhas, Json.list?, Json.mapItems]

theorem has_block_plain (key : String) (hkey : key ∈ "type" :: plainKeys)
    (hcolour : key ≠ "colour") (o : Object) : (block o).has key = o.has key := by
  rw [Object.has, get?_block_plain key hkey hcolour, Object.has]

theorem hasValueKey_block (o : Object) : hasValueKey (block o) = hasValueKey o := by
  simp (disch := decide) only [hasValueKey_eq, has_block_plain]

theorem hasStatementKey_block (o : Object) : hasStatementKey (block o) = hasStatementKey o := by
  simp (disch := decide) only [hasStatementKey_eq, has_block_plain]

theorem variant_block (o : Object) : variant (block o) = variant o := by
  rw [variant, hasValueKey_block, hasStatementKey_block, variant]

theorem ofObject?_connections_block (kind : Variant) (o : Object) :
    Connections.ofObject? kind (block o) = Connections.ofObject? kind o := by
  simp (disch := decide) only [Connections.ofObject?, get?_block_plain]

theorem ofObject?_definition_block (kind : Variant) (o : Object) (slots : List Slot) :
    Definition.ofObject? kind (block o) slots = Definition.ofObject? kind o slots := by
  have hcolour : Colour.ofJson? ∘ Json.asFloat = Colour.ofJson? :=
    funext Colour.ofJson?_asFloat
  simp (disch := decide) only [Definition.ofObject?, ofObject?_connections_block,
    get?_block_plain, get?_block_colour, Option.bind_map, hcolour]

theorem ofJson?_ofBlock (document : Json) :
    Definition.ofJson? (ofBlock document) = Definition.ofJson? document := by
  cases document with
  | object o =>
      have hslots : Slot.ofObject? (block o) = Slot.ofObject? o :=
        funext (ofObject?_slot_block o)
      simp [ofBlock, Definition.ofJson?, Json.object?, hslots, variant_block,
        ofObject?_definition_block]
  | _ => rfl

end NormalForm

end EditorBlocks
