import EditorBlocks.Proofs.Independence
import EditorBlocks.Proofs.Insertion
import EditorBlocks.Proofs.NormalChecks

/-!
# Blocks that are alike

Two blocks are alike when they have the same values under the keys that a block may
have, but for the entries of their arguments, of which only names and kinds have to
be the same.  What is reported for two such blocks differs in the keys that nobody
knows and in what is said of an entry by itself, and in nothing else.
-/

namespace EditorBlocks

open NormalForm Schema Violations

namespace Validation

structure Alike (first second : Object) : Prop where
  settings : ∀ key, isRootKey key = true → (∀ i, key ≠ argumentsKey i) →
    first.get? key = second.get? key
  lists : ∀ i, first.get? (argumentsKey i) = second.get? (argumentsKey i) ∨
    ∃ items others, first.get? (argumentsKey i) = some (.list items) ∧
      second.get? (argumentsKey i) = some (.list others) ∧
      items.map argumentName? = others.map argumentName? ∧
      items.map argumentKind? = others.map argumentKind?

/-- What a slot is told beside the reports of its entries. -/
def slotRest (mode : Mode) (o : Object) (i : Fin slotCount) : Violations :=
  match (o.get? (messageKey i)).bind Json.string? with
  | none => checkIdle [] i o
  | some message => if mode.checksRules then checkMessage [] i o message else []

namespace Alike

theorem refl (o : Object) : Alike o o := ⟨fun _ _ _ => rfl, fun _ => .inl rfl⟩

variable {first second : Object} (halike : Alike first second)

include halike

/-! ## Keys -/

theorem get?_plain (key : String) (hkey : key ∈ "type" :: plainKeys) :
    first.get? key = second.get? key := by
  have hroot : isRootKey key = true := by
    revert key
    decide
  refine halike.settings key hroot fun i heq => plainKeys_disjoint key hkey i ?_
  simp [slotKeys, heq]

theorem get?_messageKey (i : Fin slotCount) :
    first.get? (messageKey i) = second.get? (messageKey i) :=
  halike.settings _ (isRootKey_of_mem (mem_slotKeys (i := i) (by simp [slotKeys])))
    (messageKey_ne_argumentsKey i)

theorem get?_alignKey (i : Fin slotCount) :
    first.get? (alignKey i) = second.get? (alignKey i) :=
  halike.settings _ (isRootKey_of_mem (mem_slotKeys (i := i) (by simp [slotKeys])))
    fun j => (argumentsKey_ne_alignKey j i).symm

theorem names_entries (i : Fin slotCount) :
    (entries i first).map argumentName? = (entries i second).map argumentName? := by
  rcases halike.lists i with hsame | ⟨items, others, hfirst, hsecond, hnames, -⟩
  · rw [entries, hsame, entries]
  · simpa [entries, hfirst, hsecond, Json.list?] using hnames

theorem kinds_entries (i : Fin slotCount) :
    (entries i first).map argumentKind? = (entries i second).map argumentKind? := by
  rcases halike.lists i with hsame | ⟨items, others, hfirst, hsecond, -, hkinds⟩
  · rw [entries, hsame, entries]
  · simpa [entries, hfirst, hsecond, Json.list?] using hkinds

theorem isSome_arguments (i : Fin slotCount) :
    (shaped? first (arguments i)).isSome = (shaped? second (arguments i)).isSome := by
  have hkey : (arguments i).key = argumentsKey i := rfl
  rcases halike.lists i with hsame | ⟨items, others, hfirst, hsecond, -⟩
  · rw [shaped?, hkey, hsame, shaped?, hkey]
  · rw [shaped?, hkey, hfirst, shaped?, hkey, hsecond]
    rfl

/-! ## Checks -/

theorem checkConstraint_eq (mode : Mode) {c : Constraint} (hc : c ∈ rootConstraints first) :
    checkConstraint mode first c = checkConstraint mode second c := by
  obtain ⟨base, hbase, required, -, rfl⟩ := exists_mem_root hc
  -- Of a list of arguments the table only asks that it is a list.
  by_cases harguments : ∃ i, base.key = argumentsKey i
  · obtain ⟨i, hkey⟩ := harguments
    obtain ⟨hshape, hrules⟩ := shape_and_rules_of_argumentsKey hbase
      (hkey ▸ List.mem_map_of_mem (List.mem_finRange i))
    rcases halike.lists i with hsame | ⟨items, others, hfirst, hsecond, -⟩
    · simp only [checkConstraint_root, hkey, hsame]
    · simp only [checkConstraint_root, hkey, hfirst, hsecond]
      simp [checkValue, hshape, hrules, Shape.admits, Json.isList]
  · have hroot : isRootKey base.key = true := List.any_eq_true.2 ⟨base, hbase, by simp⟩
    have hget := halike.settings base.key hroot fun i hkey => harguments ⟨i, hkey⟩
    simp only [checkConstraint_root, hget]

theorem hasValueKey_eq : hasValueKey first = hasValueKey second := by
  have houtput := halike.get?_plain "output" (by decide)
  rw [Validation.hasValueKey_eq, Object.has, houtput, Validation.hasValueKey_eq, Object.has]

theorem hasStatementKey_eq : hasStatementKey first = hasStatementKey second := by
  have hprevious := halike.get?_plain "previousStatement" (by decide)
  have hnext := halike.get?_plain "nextStatement" (by decide)
  simp only [Validation.hasStatementKey_eq, Object.has, hprevious, hnext]

theorem variant_eq : variant first = variant second := by
  rw [variant, halike.hasValueKey_eq, halike.hasStatementKey_eq, variant]

theorem checkConstraints_eq (mode : Mode) :
    checkConstraints mode first (rootConstraints first) =
      checkConstraints mode second (rootConstraints second) := by
  have hroot : rootConstraints first = rootConstraints second := by
    rw [rootConstraints, halike.variant_eq, rootConstraints]
  rw [← hroot]
  exact List.flatMap_congr fun c hc => halike.checkConstraint_eq mode hc

theorem rootValue?_eq (key : String) (hkey : key ∈ "type" :: plainKeys) :
    rootValue? first key = rootValue? second key := by
  unfold rootValue?
  cases hconstraint : rootConstraint? key with
  | none => rfl
  | some c =>
      have heq := List.find?_some hconstraint
      obtain rfl : c.key = key := of_decide_eq_true heq
      rw [Option.bind_some, Option.bind_some, shaped?, halike.get?_plain c.key hkey, shaped?]

theorem slotRest_eq (mode : Mode) (i : Fin slotCount) :
    slotRest mode first i = slotRest mode second i := by
  have halign : shaped? first (align i) = shaped? second (align i) :=
    congrArg _ (halike.get?_alignKey i)
  have harguments := halike.isSome_arguments i
  simp only [slotRest, checkIdle, checkMessage, checkAlign, List.flatMap_cons, List.flatMap_nil,
    halike.get?_messageKey i, halike.names_entries i, halike.kinds_entries i, halign,
    harguments]

/-- The report of a block by that of one like it, but for unknown keys and entries. -/
theorem checkBlock_eq (c : Context) :
    checkBlock c.atRoot second =
      checkVariant [] first ++ checkConstraints c.mode first (rootConstraints first) ++
        checkUnknownKeys [] isRootKey second ++
        (checkColours c.mode first ++ checkExtensions [] c.extensions first ++
          checkMutator [] c.mutators first) ++
        slots.flatMap fun i =>
          checkEntries c.mode i (entries i second) ++ slotRest c.mode first i := by
  have hvariant : checkVariant [] first = checkVariant [] second := by
    rw [checkVariant, halike.hasValueKey_eq, halike.hasStatementKey_eq, checkVariant]
  have hcolours : checkColours c.mode first = checkColours c.mode second := by
    rw [checkColours, halike.rootValue?_eq "style" (by decide),
      halike.rootValue?_eq "colour" (by decide), checkColours]
  have hextensions : checkExtensions [] c.extensions first =
      checkExtensions [] c.extensions second := by
    rw [checkExtensions, halike.rootValue?_eq "extensions" (by decide), checkExtensions]
  have hmutator : checkMutator [] c.mutators first = checkMutator [] c.mutators second := by
    rw [checkMutator, halike.rootValue?_eq "mutator" (by decide), checkMutator]
  have hrest : slotRest c.mode first = slotRest c.mode second :=
    funext fun i => halike.slotRest_eq c.mode i
  rw [hvariant, halike.checkConstraints_eq, hcolours, hextensions, hmutator, hrest]
  simp only [checkBlock_atRoot, List.append_assoc]
  rfl

end Alike

/-! ## Another entry -/

/-- The block with another entry in the list of arguments of a slot. -/
def setEntry (o : Object) (i : Fin slotCount) (position : Nat) (entry : Json) : Object :=
  o.insert (argumentsKey i) (.list ((entries i o).set position entry))

section Entries

variable {o : Object} {i : Fin slotCount} {position : Nat} {item entry : Json}

theorem get?_of_entry (hitem : (entries i o)[position]? = some item) :
    o.get? (argumentsKey i) = some (.list (entries i o)) := by
  obtain ⟨items, hvalue, -⟩ := exists_list_of_mem_entries (List.mem_of_getElem? hitem)
  rw [hvalue, entries_of_get? hvalue]

theorem entries_setEntry :
    entries i (setEntry o i position entry) = (entries i o).set position entry :=
  entries_of_get? (by rw [setEntry, Object.get?_insert, if_pos rfl])

theorem get?_setEntry_of_ne {key : String} (hne : key ≠ argumentsKey i) :
    (setEntry o i position entry).get? key = o.get? key := by
  rw [setEntry, Object.get?_insert, if_neg hne]

theorem entries_setEntry_of_ne {j : Fin slotCount} (hne : j ≠ i) :
    entries j (setEntry o i position entry) = entries j o := by
  rw [entries, get?_setEntry_of_ne fun heq => hne (argumentsKey_inj.1 heq), entries]

theorem map_set_of_eq {α : Type} {f : Json → α} {items : List Json}
    (hitem : items[position]? = some item) (hsame : f entry = f item) :
    (items.set position entry).map f = items.map f := by
  obtain ⟨hbound, rfl⟩ := List.getElem?_eq_some_iff.1 hitem
  rw [List.map_set, hsame, ← List.map_set, List.set_getElem_self hbound]

theorem alike_setEntry (hitem : (entries i o)[position]? = some item)
    (hname : argumentName? entry = argumentName? item)
    (hkind : argumentKind? entry = argumentKind? item) :
    Alike o (setEntry o i position entry) where
  settings := fun key _ hkey => (get?_setEntry_of_ne (hkey i)).symm
  lists := by
    intro j
    by_cases hj : j = i
    · subst hj
      refine .inr ⟨_, _, get?_of_entry hitem, ?_, (map_set_of_eq hitem hname).symm,
        (map_set_of_eq hitem hkind).symm⟩
      rw [setEntry, Object.get?_insert, if_pos rfl]
    · exact .inl (get?_setEntry_of_ne fun heq => hj (argumentsKey_inj.1 heq)).symm

theorem keys_setEntry (hasc : o.Ascending) (hitem : (entries i o)[position]? = some item) :
    (setEntry o i position entry).keys = o.keys :=
  hasc.keys_insert (Object.mem_keys_of_mem (Object.mem_of_get? (get?_of_entry hitem))) _

theorem setEntry_self (hasc : o.Ascending) (hitem : (entries i o)[position]? = some item) :
    setEntry o i position item = o := by
  obtain ⟨hbound, hvalue⟩ := List.getElem?_eq_some_iff.1 hitem
  rw [setEntry, ← hvalue, List.set_getElem_self hbound]
  exact hasc.insert_self (get?_of_entry hitem)

theorem exists_checkEntries_set (mode : Mode) (i : Fin slotCount) {items : List Json}
    (hbound : position < items.length) :
    ∃ before after, ∀ entry, checkEntries mode i (items.set position entry) =
      before ++ under (entryPlace i position) (checkArgument mode entry) ++ after := by
  let report := fun pair : Json × Nat => under (entryPlace i pair.2) (checkArgument mode pair.1)
  refine ⟨(items.take position).zipIdx.flatMap report,
    ((items.drop (position + 1)).zipIdx (position + 1)).flatMap report, fun entry => ?_⟩
  have hlength : (items.take position).length = position :=
    List.length_take_of_le (Nat.le_of_lt hbound)
  rw [checkEntries_root, List.set_eq_take_append_cons_drop, if_pos hbound, List.zipIdx_append,
    hlength, Nat.zero_add, List.zipIdx_cons, List.flatMap_append, List.flatMap_cons,
    List.append_assoc]
  rfl

/-- Of the report of a block only the part about an entry depends on more of the
entry than its name and its kind. -/
theorem exists_checkBlock_setEntry (c : Context) (hasc : o.Ascending)
    (hitem : (entries i o)[position]? = some item) :
    ∃ before after, ∀ entry, argumentName? entry = argumentName? item →
      argumentKind? entry = argumentKind? item →
      checkBlock c.atRoot (setEntry o i position entry) =
        before ++ under (entryPlace i position) (checkArgument c.mode entry) ++ after := by
  have hbound : position < (entries i o).length := (List.getElem?_eq_some_iff.1 hitem).1
  obtain ⟨first, last, hentries⟩ := exists_checkEntries_set c.mode i hbound
  obtain ⟨earlier, later, hslots⟩ := List.append_of_mem (List.mem_finRange i)
  have hnodup : (earlier ++ i :: later).Nodup := hslots ▸ List.nodup_finRange slotCount
  have hfresh : i ∉ earlier ∧ i ∉ later := by
    rw [List.nodup_append, List.nodup_cons] at hnodup
    exact ⟨fun hmem => hnodup.2.2 i hmem i List.mem_cons_self rfl, hnodup.2.1.1⟩
  let report := fun p j => checkEntries c.mode j (entries j p) ++ slotRest c.mode o j
  refine ⟨checkVariant [] o ++ checkConstraints c.mode o (rootConstraints o) ++
      checkUnknownKeys [] isRootKey o ++
      (checkColours c.mode o ++ checkExtensions [] c.extensions o ++
        checkMutator [] c.mutators o) ++
      earlier.flatMap (report o) ++ first,
    last ++ slotRest c.mode o i ++ later.flatMap (report o), fun entry hname hkind => ?_⟩
  have hunknown : checkUnknownKeys [] isRootKey (setEntry o i position entry) =
      checkUnknownKeys [] isRootKey o := by
    rw [checkUnknownKeys, keys_setEntry hasc hitem, checkUnknownKeys]
  -- Only slot `i` looks at the list that changes.
  have hothers : ∀ part : List (Fin slotCount), i ∉ part →
      part.flatMap (report (setEntry o i position entry)) = part.flatMap (report o) := by
    intro part hpart
    refine List.flatMap_congr fun j hj => ?_
    have hne : j ≠ i := fun heq => hpart (heq ▸ hj)
    simp only [report, entries_setEntry_of_ne hne]
  have hslot : slots.flatMap (report (setEntry o i position entry)) =
      earlier.flatMap (report o) ++
        ((first ++ under (entryPlace i position) (checkArgument c.mode entry) ++ last ++
          slotRest c.mode o i) ++ later.flatMap (report o)) := by
    rw [slots, hslots, List.flatMap_append, List.flatMap_cons, hothers earlier hfresh.1,
      hothers later hfresh.2]
    simp only [report, entries_setEntry, hentries]
  rw [(alike_setEntry hitem hname hkind).checkBlock_eq, hunknown, hslot]
  simp only [List.append_assoc]

end Entries

/-! ## What is read -/

theorem mapM_set {α β : Type} {f : α → Option β} {g : β → β} {xs : List α} {n : Nat} {x y : α}
    (hx : xs[n]? = some x) (hy : f y = (f x).map g) :
    (xs.set n y).mapM f = (xs.mapM f).map fun ys => ys.modify n g := by
  induction xs generalizing n with
  | nil => contradiction
  | cons first rest ih =>
      cases n with
      | zero =>
          obtain rfl : first = x := Option.some.inj hx
          rw [List.set_cons_zero, List.mapM_cons, List.mapM_cons, hy]
          cases f first with
          | none => rfl
          | some z => cases rest.mapM f <;> rfl
      | succ n =>
          rw [List.set_cons_succ, List.mapM_cons, List.mapM_cons, ih hx]
          cases f first with
          | none => rfl
          | some z => cases rest.mapM f <;> rfl

theorem mapM_map_option {α β γ : Type} {f : α → Option β} {g : β → γ} (xs : List α) :
    (xs.mapM fun x => (f x).map g) = (xs.mapM f).map (List.map g) := by
  induction xs with
  | nil => rfl
  | cons x rest ih =>
      rw [List.mapM_cons, List.mapM_cons, ih]
      cases f x with
      | none => rfl
      | some y => cases rest.mapM f <;> rfl

theorem Alike.ofObject?_definition {first second : Object} (halike : Alike first second)
    (slots : List Slot) :
    Definition.ofObject? (variant first) first slots =
      Definition.ofObject? (variant second) second slots := by
  rw [halike.variant_eq]
  simp (disch := decide) only [Definition.ofObject?, Connections.ofObject?, halike.get?_plain]

theorem Alike.ofObject?_slot {first second : Object} (halike : Alike first second)
    {i : Fin slotCount} (hsame : first.get? (argumentsKey i) = second.get? (argumentsKey i)) :
    Slot.ofObject? first i = Slot.ofObject? second i := by
  simp only [Slot.ofObject?, halike.get?_messageKey i, halike.get?_alignKey i, hsame]

theorem index_of_ofObject? {o : Object} {i : Fin slotCount} {slot : Slot}
    (hread : Slot.ofObject? o i = some (some slot)) : slot.index = i := by
  unfold Slot.ofObject? at hread
  split at hread
  next => simp at hread
  next =>
    split at hread
    next =>
      obtain rfl := Option.some.inj (Option.some.inj hread)
      rfl
    next =>
      simp only [Option.bind_eq_bind, Option.bind_eq_some_iff, Option.some.injEq] at hread
      obtain ⟨-, -, found, -, rfl⟩ := hread
      rfl

end Validation

/-- The slot, with the argument at a position changed if it has this number. -/
def Slot.modifyArgument (i : Fin slotCount) (position : Nat) (change : Argument → Argument)
    (slot : Slot) : Slot :=
  if slot.index = i then { slot with arguments := slot.arguments.modify position change }
  else slot

/-- The definition with an argument of one slot changed. -/
def Definition.modifyArgument (i : Fin slotCount) (position : Nat)
    (change : Argument → Argument) (d : Definition) : Definition :=
  { d with slots := d.slots.map (Slot.modifyArgument i position change) }

namespace Validation

section Read

variable {o : Object} {i : Fin slotCount} {position : Nat} {item entry : Json}
  {change : Argument → Argument}

theorem ofObject?_slot_setEntry (hitem : (entries i o)[position]? = some item)
    (halike : Alike o (setEntry o i position entry))
    (hread : Argument.ofJson? entry = (Argument.ofJson? item).map change) (j : Fin slotCount) :
    Slot.ofObject? (setEntry o i position entry) j =
      (Slot.ofObject? o j).map (Option.map (Slot.modifyArgument i position change)) := by
  by_cases hj : j = i
  · subst hj
    have hnew : (setEntry o j position entry).get? (argumentsKey j) =
        some (.list ((entries j o).set position entry)) := by
      rw [setEntry, Object.get?_insert, if_pos rfl]
    simp only [Slot.ofObject?, ← halike.get?_messageKey j, ← halike.get?_alignKey j, hnew,
      get?_of_entry hitem]
    cases (o.get? (messageKey j)).bind Json.string? with
    | none => rfl
    | some message =>
        simp only [Json.list?, Option.bind_eq_bind, Option.bind_some, mapM_set hitem hread]
        cases (entries j o).mapM Argument.ofJson? with
        | none => rfl
        | some arguments => simp [Slot.modifyArgument]
  · rw [← halike.ofObject?_slot (get?_setEntry_of_ne fun heq => hj (argumentsKey_inj.1 heq)).symm]
    cases hslot : Slot.ofObject? o j with
    | none => rfl
    | some found =>
        cases found with
        | none => rfl
        | some slot =>
            rw [Option.map_some, Option.map_some, Slot.modifyArgument,
              index_of_ofObject? hslot, if_neg hj]

theorem ofObject?_modifyArgument (kind : Variant) (o : Object) (i : Fin slotCount)
    (position : Nat) (change : Argument → Argument) (found : List Slot) :
    Definition.ofObject? kind o (found.map (Slot.modifyArgument i position change)) =
      (Definition.ofObject? kind o found).map
        (Definition.modifyArgument i position change) := by
  simp only [Definition.ofObject?, Option.bind_eq_bind, Option.map_bind, Function.comp_def,
    Option.map_some, Definition.modifyArgument]

/-- A changed entry is read as a changed argument, and the rest as before. -/
theorem ofJson?_setEntry (hitem : (entries i o)[position]? = some item)
    (halike : Alike o (setEntry o i position entry))
    (hread : Argument.ofJson? entry = (Argument.ofJson? item).map change) :
    Definition.ofJson? (.object (setEntry o i position entry)) =
      (Definition.ofJson? (.object o)).map (Definition.modifyArgument i position change) := by
  have hslots : Slot.ofObject? (setEntry o i position entry) = fun j =>
      (Slot.ofObject? o j).map (Option.map (Slot.modifyArgument i position change)) :=
    funext (ofObject?_slot_setEntry hitem halike hread)
  simp only [Definition.ofJson?, Json.object?, Option.bind_eq_bind, Option.bind_some, hslots,
    mapM_map_option, ← halike.ofObject?_definition]
  cases (List.finRange slotCount).mapM (Slot.ofObject? o) with
  | none => rfl
  | some found =>
      have hfound : (found.map (Option.map (Slot.modifyArgument i position change))).filterMap id =
          (found.filterMap id).map (Slot.modifyArgument i position change) := by
        rw [List.filterMap_map, List.map_filterMap]
        rfl
      rw [Option.map_some, Option.bind_some, Option.bind_some, hfound,
        ofObject?_modifyArgument]

end Read

end Validation

end EditorBlocks
