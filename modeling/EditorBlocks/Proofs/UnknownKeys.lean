import EditorBlocks.Proofs.Alike
import EditorBlocks.Proofs.Located

/-!
# Keys that nobody knows

A key that is not in the table of an object is reported and not asked for.  So a
document with one more such key is told one thing more, at the place of that key
among the other unknown keys, and is read as the same definition.  A free-form
argument has no unknown keys, and there the key is one more property.
-/

namespace EditorBlocks

open NormalForm Schema Violations

/-- The argument with one more property, if it is free in form. -/
def Argument.withProperty (key : String) (value : Json) : Argument → Argument
  | .field name colour (.freeForm kind properties) =>
    .field name colour (.freeForm kind (properties.insert key value))
  | other => other

namespace Validation

/-! ## One report more -/

def unknownKeys (isKnown : String → Bool) (o : Object) : List String :=
  o.keys.filter fun key => !isKnown key

/-- What is said of an unknown key of the object at a place. -/
def unknownKeyReport (mode : Mode) (place : Path) (key : String) : Violation :=
  ⟨place ++ [.key key], .unknownField, "'" ++ key ++ "' is not a recognised key",
    if mode.warningsBlock then .error else .warning⟩

/-- The reports are the same but for one on a key, which stands among those on the
unknown keys of the object, in the order of the keys. -/
def ReportsUnknown (mode : Mode) (place : Path) (unknown : List String) (key : String)
    (old new : Violations) : Prop :=
  ∃ before after,
    old = before ++ (unknown.filter (· < key)).map (unknownKeyReport mode place) ++
      (unknown.filter (key < ·)).map (unknownKeyReport mode place) ++ after ∧
    new = before ++ (unknown.filter (· < key)).map (unknownKeyReport mode place) ++
      unknownKeyReport mode place key ::
        (unknown.filter (key < ·)).map (unknownKeyReport mode place) ++ after

theorem reported_append (mode : Mode) (path : Path) (vs ws : Violations) :
    reported mode path (vs ++ ws) = reported mode path vs ++ reported mode path ws := by
  unfold reported
  split
  · simp only [under_append, toErrors, List.map_append]
  · exact under_append path vs ws

theorem reported_under (mode : Mode) (path place : Path) (vs : Violations) :
    reported mode path (under place vs) = reported mode (path ++ place) vs := by
  rw [reported, under_under, reported]

theorem reported_checkUnknownKeys (mode : Mode) (path : Path) (isKnown : String → Bool)
    (o : Object) :
    reported mode path (checkUnknownKeys [] isKnown o) =
      (unknownKeys isKnown o).map (unknownKeyReport mode path) := by
  unfold reported
  by_cases hblock : mode.warningsBlock = true
  · rw [if_pos hblock, checkUnknownKeys, under, toErrors, List.map_map, List.map_map]
    refine List.map_congr_left fun key _ => ?_
    rw [unknownKeyReport, if_pos hblock]
    rfl
  · rw [if_neg hblock, checkUnknownKeys, under, List.map_map]
    refine List.map_congr_left fun key _ => ?_
    rw [unknownKeyReport, if_neg hblock]
    rfl

section Insertion

variable {o : Object} {key : String} {isKnown : String → Bool}

theorem get?_insert_of_isKnown (hunknown : isKnown key = false) (value : Json)
    {other : String} (hother : isKnown other = true) :
    (o.insert key value).get? other = o.get? other := by
  have hne : other ≠ key := by
    intro heq
    rw [← heq, hother] at hunknown
    contradiction
  rw [Object.get?_insert, if_neg hne]

/-- The unknown keys, without and with one more, are cut at the same place. -/
theorem unknownKeys_insert (hasc : o.Ascending) (hnew : o.get? key = none)
    (hunknown : isKnown key = false) (value : Json) :
    unknownKeys isKnown o =
        (unknownKeys isKnown o).filter (· < key) ++ (unknownKeys isKnown o).filter (key < ·) ∧
      unknownKeys isKnown (o.insert key value) =
        (unknownKeys isKnown o).filter (· < key) ++
          key :: (unknownKeys isKnown o).filter (key < ·) := by
  let keep := fun m : String × Json => !isKnown m.1
  have hkeys : ∀ p : Object, unknownKeys isKnown p = Object.keys (p.filter keep) := by
    intro p
    rw [unknownKeys, Object.keys, Object.keys, List.filter_map]
    rfl
  have hkeep : keep (key, value) = true := by
    simp [keep, hunknown]
  obtain ⟨before, after, hcut⟩ := hasc.exists_cut hnew
  -- The known keys are left out on both sides of the cut.
  have hkept := hcut.filter keep
  rw [hkeys o, hkeys (o.insert key value), hasc.filter_insert hnew hkeep, hkept.insert_eq,
    hkept.filter_keys.1, hkept.filter_keys.2]
  constructor
  · rw [hkept.eq, Object.keys, List.map_append, Object.keys, Object.keys]
  · rw [Object.keys, List.map_append, List.map_cons, Object.keys, Object.keys]

theorem reportsUnknown_of_insert (hasc : o.Ascending) (hnew : o.get? key = none)
    (hunknown : isKnown key = false) (value : Json) (mode : Mode) (path : Path)
    (before after : Violations) :
    ReportsUnknown mode path (unknownKeys isKnown o) key
      (before ++ reported mode path (checkUnknownKeys [] isKnown o) ++ after)
      (before ++ reported mode path (checkUnknownKeys [] isKnown (o.insert key value)) ++ after) := by
  obtain ⟨hold, hinserted⟩ := unknownKeys_insert hasc hnew hunknown value
  refine ⟨before, after, ?_, ?_⟩
  · rw [reported_checkUnknownKeys]
    nth_rewrite 1 [hold]
    rw [List.map_append, ← List.append_assoc]
  · rw [reported_checkUnknownKeys, hinserted, List.map_append, List.map_cons,
      ← List.append_assoc]

end Insertion

theorem ReportsUnknown.hasErrors_eq {mode : Mode} {place : Path} {unknown : List String}
    {key : String} {old new : Violations} (hreports : ReportsUnknown mode place unknown key old new)
    (hmode : mode ≠ .strict) : new.hasErrors = old.hasErrors := by
  have hwarning : (unknownKeyReport mode place key).isError = false := by
    cases mode with
    | strict => contradiction
    | tolerant | basic => rfl
  obtain ⟨before, after, rfl, rfl⟩ := hreports
  simp [hasErrors, hwarning]

/-- Where warnings do not block, one warning more changes nothing that is read. -/
theorem ReportsUnknown.definition_eq {c : Context} {document changed : Json} {place : Path}
    {unknown : List String} {key : String}
    (hreports : ReportsUnknown c.mode place unknown key
      (validate c document).violations (validate c changed).violations)
    (hmode : c.mode ≠ .strict)
    (hread : Definition.ofJson? changed = Definition.ofJson? document) :
    (validate c changed).definition = (validate c document).definition := by
  rw [definition_validate, definition_validate, hreports.hasErrors_eq hmode, hread]

/-! ## Keys of a block -/

section Blocks

variable {o : Object} {key : String}

theorem isRootKey_argumentsKey (i : Fin slotCount) : isRootKey (argumentsKey i) = true :=
  isRootKey_of_mem (mem_slotKeys (i := i) (by simp [slotKeys]))

theorem alike_insert (hunknown : isRootKey key = false) (value : Json) :
    Alike o (o.insert key value) where
  settings := fun _ hother _ => (get?_insert_of_isKnown hunknown value hother).symm
  lists := fun i =>
    .inl (get?_insert_of_isKnown hunknown value (isRootKey_argumentsKey i)).symm

theorem entries_insert (hunknown : isRootKey key = false) (value : Json) (i : Fin slotCount) :
    entries i (o.insert key value) = entries i o := by
  rw [entries, get?_insert_of_isKnown hunknown value (isRootKey_argumentsKey i), entries]

theorem ofJson?_insert (hunknown : isRootKey key = false) (value : Json) :
    Definition.ofJson? (.object (o.insert key value)) = Definition.ofJson? (.object o) := by
  have halike : Alike o (o.insert key value) := alike_insert hunknown value
  have hslots : Slot.ofObject? o = Slot.ofObject? (o.insert key value) := by
    funext i
    apply halike.ofObject?_slot
    rw [get?_insert_of_isKnown hunknown value (isRootKey_argumentsKey i)]
  simp only [Definition.ofJson?, Json.object?, Option.bind_eq_bind, Option.bind_some, ← hslots,
    ← halike.ofObject?_definition]

theorem reportsUnknown_blockKey (c : Context) (hasc : o.Ascending)
    (hunknown : isRootKey key = false) (hnew : o.get? key = none) (value : Json) :
    ReportsUnknown c.mode c.path (unknownKeys isRootKey o) key
      (validate c (.object o)).violations
      (validate c (.object (o.insert key value))).violations := by
  let before := checkVariant [] o ++ checkConstraints c.mode o (rootConstraints o)
  let after := (checkColours c.mode o ++ checkExtensions [] c.extensions o ++
      checkMutator [] c.mutators o) ++
    slots.flatMap fun i => checkEntries c.mode i (entries i o) ++ slotRest c.mode o i
  have hold : checkBlock c.atRoot o = before ++ checkUnknownKeys [] isRootKey o ++ after := by
    rw [(Alike.refl o).checkBlock_eq]
    simp only [before, after, List.append_assoc]
  have hinserted : checkBlock c.atRoot (o.insert key value) =
      before ++ checkUnknownKeys [] isRootKey (o.insert key value) ++ after := by
    rw [(alike_insert hunknown value).checkBlock_eq]
    simp only [before, after, List.append_assoc, entries_insert hunknown]
  rw [violations_validate, violations_validate, checkDocument, checkDocument, hold, hinserted]
  simp only [reported_append]
  exact reportsUnknown_of_insert hasc hnew hunknown value c.mode c.path _ _

end Blocks

/-! ## Keys of an argument -/

section Arguments

variable {kind : ArgumentKind} {a : Object} {key : String}

theorem isArgumentKey_type (kind : ArgumentKind) : isArgumentKey kind "type" = true := by
  simp [isArgumentKey]

theorem isArgumentKey_name (kind : ArgumentKind) : isArgumentKey kind "name" = true := by
  have hname : argumentName ∈ (argument kind).constraints := by
    cases kind <;> exact List.mem_cons_self
  exact isArgumentKey_of_mem hname

theorem argumentKind?_insert (hunknown : isArgumentKey kind key = false) (value : Json) :
    argumentKind? (.object (a.insert key value)) = argumentKind? (.object a) := by
  have htype := get?_insert_of_isKnown (o := a) hunknown value (isArgumentKey_type kind)
  simp only [argumentKind?, Json.object?, argumentType, Constraint.mandatory,
    Option.bind_eq_bind, Option.bind_some, htype]

theorem argumentName?_insert (hunknown : isArgumentKey kind key = false) (value : Json) :
    argumentName? (.object (a.insert key value)) = argumentName? (.object a) := by
  have hname := get?_insert_of_isKnown (o := a) hunknown value (isArgumentKey_name kind)
  simp only [argumentName?, Json.object?, argumentName, Constraint.mandatory,
    Option.bind_eq_bind, Option.bind_some, hname]

theorem checkConstraints_insert (hunknown : isArgumentKey kind key = false) (mode : Mode)
    (value : Json) :
    checkConstraints mode (a.insert key value) (argument kind).constraints =
      checkConstraints mode a (argument kind).constraints := by
  refine List.flatMap_congr fun c hc => ?_
  rw [checkConstraint_root, checkConstraint_root,
    get?_insert_of_isKnown hunknown value (isArgumentKey_of_mem hc)]

/-- Unless it is free in form, the normal form of an argument leaves the key out. -/
theorem knownArgument_insert (hform : kind.isFreeForm = false)
    (hunknown : isArgumentKey kind key = false) (value : Json) :
    knownArgument kind (a.insert key value) = knownArgument kind a := by
  simp only [knownArgument, hform, Bool.false_eq_true, if_false]
  exact Object.refine_insert hunknown _ value a

theorem checkRules_insert (hform : kind.isFreeForm = false)
    (hunknown : isArgumentKey kind key = false) (value : Json) :
    (argument kind).rules.flatMap (checkJointRule [] (a.insert key value)) =
      (argument kind).rules.flatMap (checkJointRule [] a) := by
  refine List.flatMap_congr fun rule hrule => ?_
  rw [← checkJointRule_knownArgument hrule (a.insert key value),
    knownArgument_insert hform hunknown, checkJointRule_knownArgument hrule]

theorem checkArgument_of_kind (mode : Mode) (hkind : argumentKind? (.object a) = some kind)
    (hform : kind.isFreeForm = false) :
    checkArgument mode (.object a) =
      checkConstraints mode a (argument kind).constraints ++
        checkUnknownKeys [] (isArgumentKey kind) a ++
        if mode.checksRules then (argument kind).rules.flatMap (checkJointRule [] a) else [] := by
  have hcarries : (argument kind).carriesOthers = false := by
    cases kind with
    | freeForm form => contradiction
    | _ => rfl
  simp only [checkArgument, hkind, checkKnownArgument, hcarries, Bool.false_eq_true, if_false]
  rfl

theorem checkArgument_of_freeForm {form : FreeFormKind} (mode : Mode)
    (hkind : argumentKind? (.object a) = some (.freeForm form)) :
    checkArgument mode (.object a) =
      checkConstraints mode a (argument (.freeForm form)).constraints := by
  simp [checkArgument, hkind, checkKnownArgument, argument]

theorem ofJson?_argument_insert (hkind : argumentKind? (.object a) = some kind)
    (hform : kind.isFreeForm = false) (hunknown : isArgumentKey kind key = false)
    (value : Json) :
    Argument.ofJson? (.object (a.insert key value)) = Argument.ofJson? (.object a) := by
  have hnormal : ofArgument (.object (a.insert key value)) = ofArgument (.object a) := by
    simp only [ofArgument, argumentKind?_insert hunknown, hkind,
      knownArgument_insert hform hunknown]
  rw [← ofJson?_ofArgument, hnormal, ofJson?_ofArgument]

theorem modifyArgument_id (i : Fin slotCount) (position : Nat) :
    Definition.modifyArgument i position id = id := by
  funext d
  have hslot : Slot.modifyArgument i position id = id := by
    funext slot
    simp [Slot.modifyArgument]
  rw [Definition.modifyArgument, hslot, List.map_id, id]

end Arguments

/-! ## Properties of a free-form argument -/

section FreeForm

variable {form : FreeFormKind} {a : Object} {key : String}

theorem not_mem_sharedKeys (hunknown : isArgumentKey (.freeForm form) key = false) :
    key ∉ FieldContent.sharedKeys := by
  have hshared : ∀ other ∈ FieldContent.sharedKeys,
      isArgumentKey (.freeForm form) other = true := by
    cases form <;> decide
  intro hmem
  rw [hshared key hmem] at hunknown
  contradiction

theorem ofJson?_freeForm_insert (hkind : argumentKind? (.object a) = some (.freeForm form))
    (hasc : a.Ascending) (hnew : a.get? key = none)
    (hunknown : isArgumentKey (.freeForm form) key = false) (value : Json) :
    Argument.ofJson? (.object (a.insert key value)) =
      (Argument.ofJson? (.object a)).map (Argument.withProperty key value) := by
  have hget : ∀ other ∈ FieldContent.sharedKeys,
      (a.insert key value).get? other = a.get? other := by
    intro other hother
    have hne : other ≠ key := by
      rintro rfl
      exact not_mem_sharedKeys hunknown hother
    rw [Object.get?_insert, if_neg hne]
  have hproperties : (a.insert key value).filter
      (fun m => !FieldContent.sharedKeys.contains m.1) =
        Object.insert key value (a.filter fun m => !FieldContent.sharedKeys.contains m.1) :=
    hasc.filter_insert hnew (by simp [not_mem_sharedKeys hunknown])
  have htype := type_of_argumentKind? hkind
  simp only [Argument.ofJson?, Json.object?, Option.bind_eq_bind, Option.bind_some,
    hget "name" (by decide), hget "type" (by decide), hget "colour" (by decide), htype,
    Json.string?, ArgumentKind.ofName?_name, FieldContent.ofObject?, hproperties]
  cases a.get? "name" with
  | none => rfl
  | some found => cases found <;> rfl

/-- Nothing is said of the key, since a free-form argument may have any. -/
theorem checkArgument_freeForm_insert (mode : Mode)
    (hkind : argumentKind? (.object a) = some (.freeForm form))
    (hunknown : isArgumentKey (.freeForm form) key = false) (value : Json) :
    checkArgument mode (.object (a.insert key value)) = checkArgument mode (.object a) := by
  rw [checkArgument_of_freeForm mode hkind, checkArgument_of_freeForm mode
    ((argumentKind?_insert hunknown value).trans hkind), checkConstraints_insert hunknown]

/-- An accepted document with a message has the slot, and its arguments are the entries. -/
theorem exists_slot_of_accepted {c : Context} {o : Object} {d : Definition}
    (haccepted : (validate c (.object o)).definition = some d) {i : Fin slotCount}
    (hmessage : o.has (messageKey i) = true) :
    ∃ slot, d.slot? i.val = some slot ∧
      ∀ (position : Nat) (item : Json), (entries i o)[position]? = some item →
        ∃ argument, Argument.ofJson? item = some argument ∧
          slot.arguments[position]? = some argument := by
  obtain ⟨_, ⟨rfl⟩, hsilent, -⟩ := slots_of_accepted haccepted
  have hproper := properBlock_of_silent hsilent
  obtain ⟨value, hvalue⟩ := Option.isSome_iff_exists.1 hmessage
  have hshape := (hproper.fits (Schema.message i) (by simp [root, slots]) value hvalue).shape
  obtain ⟨text, rfl⟩ : ∃ text, value = .string text := by
    cases value with
    | string text => exact ⟨text, rfl⟩
    | _ => contradiction
  have hslot : (checkSlot c.mode o i).hasErrors = false := silent_slot_of_silent hsilent i
  obtain ⟨arguments, hread, hbuilt⟩ := exists_arguments_of_silent hslot
  rw [slot?_of_accepted haccepted]
  simp only [slotOutcome, hvalue, Option.bind_some, Json.string?, hslot, Bool.false_eq_true,
    if_false, hbuilt, SlotOutcome.slot?]
  refine ⟨_, rfl, fun position item hitem => ?_⟩
  obtain ⟨members, kind, rfl, hargument⟩ :=
    hproper.arguments i item (List.mem_of_getElem? hitem)
  obtain ⟨argument, hsome⟩ := Option.isSome_iff_exists.1 hargument.isSome_ofJson?
  refine ⟨argument, hsome, ?_⟩
  rw [getElem?_of_mapM hread, hitem, Option.bind_some, hsome]

theorem exists_properties_of_ofJson? {argument : Argument}
    (hkind : argumentKind? (.object a) = some (.freeForm form)) (hnew : a.get? key = none)
    (hread : Argument.ofJson? (.object a) = some argument) :
    ∃ name colour properties,
      argument = .field name colour (.freeForm form properties) ∧
        properties.get? key = none := by
  obtain ⟨_, ⟨rfl⟩, -, hargument, hcontent⟩ := Argument.exists_object_of_ofJson? hread
  have hsame : argument.kind = .freeForm form := Option.some.inj (hargument.symm.trans hkind)
  cases argument with
  | input name kind check => contradiction
  | field name colour content =>
      cases content with
      | freeForm kind properties =>
          obtain rfl : kind = form := by simpa [Argument.kind, FieldContent.kind] using hsame
          obtain rfl : a.filter (fun m => !FieldContent.sharedKeys.contains m.1) = properties := by
            simpa [Argument.ContentOf, FieldContent.kind, FieldContent.ofObject?] using hcontent
          refine ⟨name, colour, _, rfl, ?_⟩
          rw [Object.get?_eq_none_iff] at hnew ⊢
          intro hmem
          exact hnew ((List.filter_sublist.map Prod.fst).subset hmem)
      | _ => contradiction

end FreeForm

/-! ## Documents -/

section Documents

variable {o a : Object} {i : Fin slotCount} {position : Nat} {kind : ArgumentKind} {key : String}

theorem alike_setEntry_insert (hitem : (entries i o)[position]? = some (.object a))
    (hunknown : isArgumentKey kind key = false) (value : Json) :
    Alike o (setEntry o i position (.object (a.insert key value))) :=
  alike_setEntry hitem (argumentName?_insert hunknown value) (argumentKind?_insert hunknown value)

theorem ascending_of_entry (hordered : (Json.object o).Ordered)
    (hitem : (entries i o)[position]? = some (.object a)) : a.Ascending := by
  have hlist := hordered.of_get? (get?_of_entry hitem)
  have hobject := Json.ordered_list.1 hlist _ (List.mem_of_getElem? hitem)
  exact (Json.ordered_object.1 hobject).1

theorem reportsUnknown_argumentKey (c : Context) (hasc : o.Ascending)
    (hitem : (entries i o)[position]? = some (.object a)) (hentry : a.Ascending)
    (hkind : argumentKind? (.object a) = some kind) (hform : kind.isFreeForm = false)
    (hunknown : isArgumentKey kind key = false) (hnew : a.get? key = none) (value : Json) :
    ReportsUnknown c.mode (c.path ++ entryPlace i position) (unknownKeys (isArgumentKey kind) a)
      key (validate c (.object o)).violations
      (validate c (.object (setEntry o i position (.object (a.insert key value))))).violations := by
  obtain ⟨before, after, hreport⟩ := exists_checkBlock_setEntry c hasc hitem
  have hold := hreport (.object a) rfl rfl
  have hinserted := hreport (.object (a.insert key value)) (argumentName?_insert hunknown value)
    (argumentKind?_insert hunknown value)
  rw [setEntry_self hasc hitem, checkArgument_of_kind c.mode hkind hform] at hold
  rw [checkArgument_of_kind c.mode ((argumentKind?_insert hunknown value).trans hkind) hform,
    checkConstraints_insert hunknown, checkRules_insert hform hunknown] at hinserted
  rw [violations_validate, violations_validate, checkDocument, checkDocument, hold, hinserted]
  -- What follows the unknown keys is the rules of the argument and the rest of the block.
  simp only [reported_append, reported_under, ← List.append_assoc]
  rw [List.append_assoc _ _ (reported _ _ after), List.append_assoc _ _ (reported _ _ after)]
  exact reportsUnknown_of_insert hentry hnew hunknown value c.mode _ _ _

theorem ofJson?_argumentKey (hitem : (entries i o)[position]? = some (.object a))
    (hkind : argumentKind? (.object a) = some kind) (hform : kind.isFreeForm = false)
    (hunknown : isArgumentKey kind key = false) (value : Json) :
    Definition.ofJson? (.object (setEntry o i position (.object (a.insert key value)))) =
      Definition.ofJson? (.object o) := by
  have halike := alike_setEntry_insert hitem hunknown value
  have hread : Argument.ofJson? (.object (a.insert key value)) =
      (Argument.ofJson? (.object a)).map id := by
    rw [ofJson?_argument_insert hkind hform hunknown, Option.map_id, id]
  rw [ofJson?_setEntry hitem halike hread, modifyArgument_id, Option.map_id, id]

theorem violations_property (c : Context) {form : FreeFormKind} (hasc : o.Ascending)
    (hitem : (entries i o)[position]? = some (.object a))
    (hkind : argumentKind? (.object a) = some (.freeForm form))
    (hunknown : isArgumentKey (.freeForm form) key = false) (value : Json) :
    (validate c (.object (setEntry o i position (.object (a.insert key value))))).violations =
      (validate c (.object o)).violations := by
  obtain ⟨before, after, hreport⟩ := exists_checkBlock_setEntry c hasc hitem
  have hold := hreport (.object a) rfl rfl
  have hinserted := hreport (.object (a.insert key value)) (argumentName?_insert hunknown value)
    (argumentKind?_insert hunknown value)
  rw [setEntry_self hasc hitem] at hold
  rw [checkArgument_freeForm_insert c.mode hkind hunknown, ← hold] at hinserted
  rw [violations_validate, violations_validate]
  exact congrArg (reported c.mode c.path) hinserted

theorem definition_property (c : Context) {form : FreeFormKind} (hasc : o.Ascending)
    (hitem : (entries i o)[position]? = some (.object a)) (hentry : a.Ascending)
    (hkind : argumentKind? (.object a) = some (.freeForm form))
    (hunknown : isArgumentKey (.freeForm form) key = false) (hnew : a.get? key = none)
    (value : Json) :
    (validate c (.object (setEntry o i position (.object (a.insert key value))))).definition =
      (validate c (.object o)).definition.map
        (Definition.modifyArgument i position (Argument.withProperty key value)) := by
  have halike := alike_setEntry_insert hitem hunknown value
  have hread := ofJson?_freeForm_insert hkind hentry hnew hunknown value
  rw [definition_validate, definition_validate, violations_property c hasc hitem hkind hunknown,
    ofJson?_setEntry hitem halike hread]
  by_cases herrors : (validate c (.object o)).violations.hasErrors = true
  · rw [if_pos herrors, if_pos herrors, Option.map_none]
  · rw [if_neg herrors, if_neg herrors]

end Documents

/-- Keys that nobody knows are inert.  A block with one more such key is told one
thing more, which does not block unless warnings do, and is otherwise told and read
as before.  So it is with one more such key of an argument of a known kind, unless
the kind is free in form.  Then nothing is told, and the argument that is read has
one more property.  That keys ascend is no restriction, since the readers give no
other documents. -/
theorem unknown_keys_inert (c : Context) {o : Object} (hordered : (Json.object o).Ordered) :
    (∀ (key : String) (value : Json), isRootKey key = false → o.get? key = none →
      let old := validate c (.object o)
      let new := validate c (.object (o.insert key value))
      ReportsUnknown c.mode c.path (unknownKeys isRootKey o) key old.violations new.violations ∧
        (c.mode ≠ .strict → new.definition = old.definition)) ∧
    ∀ (i : Fin slotCount) (position : Nat) (a : Object) (kind : ArgumentKind) (key : String)
        (value : Json),
      (entries i o)[position]? = some (.object a) → argumentKind? (.object a) = some kind →
      isArgumentKey kind key = false → a.get? key = none →
      let old := validate c (.object o)
      let new := validate c (.object (setEntry o i position (.object (a.insert key value))))
      (kind.isFreeForm = false →
        ReportsUnknown c.mode (c.path ++ entryPlace i position)
            (unknownKeys (isArgumentKey kind) a) key old.violations new.violations ∧
          (c.mode ≠ .strict → new.definition = old.definition)) ∧
      (kind.isFreeForm = true →
        new.violations = old.violations ∧
        new.definition = old.definition.map
          (Definition.modifyArgument i position (Argument.withProperty key value)) ∧
        ∀ d, old.definition = some d → o.has (messageKey i) = true →
          ∃ slot name colour form properties, d.slot? i.val = some slot ∧
            slot.arguments[position]? = some (.field name colour (.freeForm form properties)) ∧
            properties.get? key = none) := by
  have hasc : o.Ascending := (Json.ordered_object.1 hordered).1
  constructor
  · intro key value hunknown hnew old new
    have hreports := reportsUnknown_blockKey c hasc hunknown hnew value
    exact ⟨hreports, fun hmode => hreports.definition_eq hmode (ofJson?_insert hunknown value)⟩
  · intro i position a kind key value hitem hkind hunknown hnew old new
    have hentry : a.Ascending := ascending_of_entry hordered hitem
    constructor
    · intro hform
      have hreports :=
        reportsUnknown_argumentKey c hasc hitem hentry hkind hform hunknown hnew value
      exact ⟨hreports, fun hmode =>
        hreports.definition_eq hmode (ofJson?_argumentKey hitem hkind hform hunknown value)⟩
    · intro hform
      obtain ⟨form, rfl⟩ : ∃ form, kind = .freeForm form := by
        cases kind with
        | freeForm form => exact ⟨form, rfl⟩
        | _ => contradiction
      refine ⟨violations_property c hasc hitem hkind hunknown value,
        definition_property c hasc hitem hentry hkind hunknown hnew value,
        fun d haccepted hmessage => ?_⟩
      obtain ⟨slot, hslot, hentries⟩ := exists_slot_of_accepted haccepted hmessage
      obtain ⟨argument, hargument, hthere⟩ := hentries position _ hitem
      obtain ⟨name, colour, properties, rfl, hfresh⟩ :=
        exists_properties_of_ofJson? hkind hnew hargument
      exact ⟨slot, name, colour, form, properties, hslot, hthere, hfresh⟩

/-- One more key at each of the three places, in a block that has an unknown key. -/
theorem unknown_keys_inert_everywhere :
    let c : Context := ⟨.tolerant, none, none, [.index 2]⟩
    let i : Fin slotCount := ⟨0, by decide⟩
    let box : Object := [("name", .string "B"), ("type", .string "field_checkbox")]
    let label : Object := [("name", .string "L"), ("type", .string "field_label")]
    let o : Object := [
      ("args0", .list [.object box, .object label]),
      ("message0", .string "%1 %2"),
      ("type", .string "a"),
      ("zeta", .null)]
    let report := fun p : Object => validate c (.object p)
    let inBox := setEntry o i 0 (.object (box.insert "tip" .null))
    let inLabel := setEntry o i 1 (.object (label.insert "text" (.string "so")))
    (Json.object o).Ordered ∧
      ReportsUnknown .tolerant [.index 2] ["zeta"] "extra"
        (report o).violations (report (o.insert "extra" .null)).violations ∧
      ReportsUnknown .tolerant [.index 2, .key "args0", .index 0] [] "tip"
        (report o).violations (report inBox).violations ∧
      (report inBox).definition = (report o).definition ∧
      (report inLabel).violations = (report o).violations ∧
      ∃ d slot name colour form properties,
        (report o).definition = some d ∧
        (report inLabel).definition = some
          (d.modifyArgument i 1 (Argument.withProperty "text" (.string "so"))) ∧
        d.slot? 0 = some slot ∧
        slot.arguments[1]? = some (.field name colour (.freeForm form properties)) ∧
        properties.get? "text" = none := by
  intro c i box label o report inBox inLabel
  have hordered : (Json.object o).Ordered := by
    decide +kernel
  obtain ⟨hblock, hargument⟩ := unknown_keys_inert c hordered
  obtain ⟨hextra, -⟩ := hblock "extra" .null (by decide) (by decide)
  obtain ⟨htip, -⟩ := hargument i 0 box .checkbox "tip" .null (by decide) (by decide)
    (by decide) (by decide)
  obtain ⟨-, htext⟩ := hargument i 1 label (.freeForm .label) "text" (.string "so") (by decide)
    (by decide) (by decide) (by decide)
  obtain ⟨hviolations, hdefinition, hproperties⟩ := htext rfl
  have hsome : (report o).definition.isSome = true := by
    decide +kernel
  obtain ⟨d, haccepted⟩ := Option.isSome_iff_exists.1 hsome
  obtain ⟨slot, name, colour, form, properties, hslot, hthere, hfresh⟩ :=
    hproperties d haccepted (by decide)
  have hchanged : (report inLabel).definition = some
      (d.modifyArgument i 1 (Argument.withProperty "text" (.string "so"))) := by
    rw [← Option.map_some, ← haccepted]
    exact hdefinition
  obtain ⟨hreports, hsame⟩ := htip rfl
  have hunknown : unknownKeys isRootKey o = ["zeta"] := by
    decide
  have hnone : unknownKeys (isArgumentKey .checkbox) box = [] := by
    decide
  have hplace : c.path ++ entryPlace i 0 = [.index 2, .key "args0", .index 0] := by
    decide
  rw [hunknown] at hextra
  rw [hnone, hplace] at hreports
  exact ⟨hordered, hextra, hreports, hsame (by decide), hviolations, d, slot, name, colour, form,
    properties, haccepted, hchanged, hslot, hthere, hfresh⟩

end Validation

end EditorBlocks
