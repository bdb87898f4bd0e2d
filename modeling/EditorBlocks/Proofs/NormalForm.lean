import EditorBlocks.Proofs.Objects
import EditorBlocks.Proofs.Shapes
import EditorBlocks.Validation.Block

/-!
# The normal form of a document

The normal form of a block keeps what a definition is made of and drops the
rest: keys that nobody knows, and keys that say nothing, which are the settings
of a slot without a message and an empty list of arguments.  Numbers that a
definition stores become floats.  A free-form argument stays as it is.

Nothing is read on the way; the normal form is a function of the document alone.
-/

namespace EditorBlocks

open Schema Validation

/-- The items of a list changed one by one; any other value stays as it is. -/
def Json.mapItems (change : Json → Json) : Json → Json
  | .list items => .list (items.map change)
  | value => value

/-! ## The keys of a block -/

@[simp]
theorem argumentsKey_inj {i j : Fin slotCount} :
    argumentsKey i = argumentsKey j ↔ i = j := by
  revert i j
  decide

@[simp]
theorem alignKey_inj {i j : Fin slotCount} : alignKey i = alignKey j ↔ i = j := by
  revert i j
  decide

@[simp]
theorem messageKey_ne_argumentsKey (i j : Fin slotCount) :
    messageKey i ≠ argumentsKey j := by
  revert i j
  decide

@[simp]
theorem messageKey_ne_alignKey (i j : Fin slotCount) : messageKey i ≠ alignKey j := by
  revert i j
  decide

@[simp]
theorem argumentsKey_ne_alignKey (i j : Fin slotCount) :
    argumentsKey i ≠ alignKey j := by
  revert i j
  decide

/-- The keys of a block that belong to no slot, in the order in which a
definition is written. -/
def plainKeys : List String :=
  ["inputsInline", "helpUrl", "style", "tooltip", "mutator", "colour", "extensions", "output",
    "previousStatement", "nextStatement"]

def slotKeys (i : Fin slotCount) : List String := [messageKey i, argumentsKey i, alignKey i]

theorem plainKeys_disjoint : ∀ key ∈ "type" :: plainKeys, ∀ i, key ∉ slotKeys i := by
  decide

/-- Every key of a block is its type, a key of a slot or a plain key. -/
theorem mem_keys_of_isRootKey {key : String} (hkey : isRootKey key = true) :
    key ∈ "type" :: slots.flatMap slotKeys ++ plainKeys := by
  obtain ⟨c, hc, heq⟩ := List.any_eq_true.1 hkey
  obtain rfl : c.key = key := of_decide_eq_true heq
  have hall : ∀ c ∈ root, c.key ∈ "type" :: slots.flatMap slotKeys ++ plainKeys := by
    decide
  exact hall c hc

theorem isRootKey_of_mem {key : String}
    (hkey : key ∈ "type" :: slots.flatMap slotKeys ++ plainKeys) :
    isRootKey key = true := by
  revert key
  decide

namespace NormalForm

/-! ## Dropdown options -/

def imageKeys : List String := ["src", "width", "height", "alt"]

def imageValue (key : String) (value : Json) : Json :=
  if key = "width" ∨ key = "height" then value.asFloat else value

def image (o : Object) : Object := o.refine imageKeys.contains imageValue

def ofLabel : Json → Json
  | .object o => .object (image o)
  | value => value

def ofChoice : Json → Json
  | .list [label, value] => .list [ofLabel label, value]
  | value => value

/-! ## Arguments -/

/-- An argument of a kind has a `type` and the keys of the table of the kind. -/
def isArgumentKey (kind : ArgumentKind) (key : String) : Bool :=
  key = "type" || ((argument kind).find? key).isSome

def boundKeys : List String := ["value", "min", "max", "precision"]

def argumentValue (kind : ArgumentKind) (key : String) (value : Json) : Json :=
  match kind with
  | .number => if key ∈ boundKeys then value.asFloat else value
  | .dropdown => if key = "options" then value.mapItems ofChoice else value
  | _ => value

def knownArgument (kind : ArgumentKind) (o : Object) : Object :=
  if kind.isFreeForm then o else o.refine (isArgumentKey kind) (argumentValue kind)

def ofArgument (value : Json) : Json :=
  match value, argumentKind? value with
  | .object o, some kind => .object (knownArgument kind o)
  | value, _ => value

/-! ## Blocks -/

/-- The keys of a block that are known and yet say nothing. -/
def idleKeys (o : Object) : List String :=
  slots.flatMap fun i =>
    if !o.has (messageKey i) then [argumentsKey i, alignKey i]
    else if o.get? (argumentsKey i) = some (.list []) then [argumentsKey i]
    else []

def keeps (o : Object) (key : String) : Bool :=
  isRootKey key && !(idleKeys o).contains key

def blockValue (key : String) (value : Json) : Json :=
  if key = "colour" then value.asFloat
  else if key ∈ slots.map argumentsKey then value.mapItems ofArgument
  else value

def block (o : Object) : Object := o.refine (keeps o) blockValue

def ofBlock : Json → Json
  | .object o => .object (block o)
  | value => value

/-! ## What is under the keys of a normal form -/

theorem mem_idleKeys {o : Object} {key : String} :
    key ∈ idleKeys o ↔ ∃ i,
      o.has (messageKey i) = false ∧ (key = argumentsKey i ∨ key = alignKey i) ∨
      o.get? (argumentsKey i) = some (.list []) ∧ key = argumentsKey i := by
  simp only [idleKeys, slots, List.mem_flatMap, List.mem_finRange, true_and]
  refine exists_congr fun i => ?_
  cases o.has (messageKey i) with
  | false =>
      simp only [Bool.not_false, if_true, List.mem_cons, List.not_mem_nil, or_false, true_and]
      exact ⟨.inl, fun h => h.elim id fun h => .inl h.2⟩
  | true => by_cases hempty : o.get? (argumentsKey i) = some (.list []) <;> simp [hempty]

theorem argumentsKey_mem_idleKeys {o : Object} {i : Fin slotCount} :
    argumentsKey i ∈ idleKeys o ↔
      o.has (messageKey i) = false ∨ o.get? (argumentsKey i) = some (.list []) := by
  rw [mem_idleKeys]
  constructor
  · rintro ⟨j, ⟨hmessage, heq | heq⟩ | ⟨hempty, heq⟩⟩
    · exact .inl (argumentsKey_inj.1 heq ▸ hmessage)
    · exact absurd heq (argumentsKey_ne_alignKey i j)
    · exact .inr (argumentsKey_inj.1 heq ▸ hempty)
  · rintro (hmessage | hempty)
    · exact ⟨i, .inl ⟨hmessage, .inl rfl⟩⟩
    · exact ⟨i, .inr ⟨hempty, rfl⟩⟩

theorem alignKey_mem_idleKeys {o : Object} {i : Fin slotCount} :
    alignKey i ∈ idleKeys o ↔ o.has (messageKey i) = false := by
  rw [mem_idleKeys]
  constructor
  · rintro ⟨j, ⟨hmessage, heq | heq⟩ | ⟨-, heq⟩⟩
    · exact absurd heq.symm (argumentsKey_ne_alignKey j i)
    · exact alignKey_inj.1 heq ▸ hmessage
    · exact absurd heq.symm (argumentsKey_ne_alignKey j i)
  · exact fun hmessage => ⟨i, .inl ⟨hmessage, .inr rfl⟩⟩

theorem not_mem_idleKeys {o : Object} {key : String} (hkey : key ∈ "type" :: plainKeys) :
    key ∉ idleKeys o := by
  intro hidle
  obtain ⟨i, h⟩ := mem_idleKeys.1 hidle
  have hslot := plainKeys_disjoint key hkey i
  simp only [slotKeys, List.mem_cons, not_or] at hslot
  rcases h with ⟨-, h | h⟩ | ⟨-, h⟩
  · exact hslot.2.1 h
  · exact hslot.2.2.1 h
  · exact hslot.2.1 h

theorem keeps_of_not_mem {o : Object} {key : String}
    (hroot : key ∈ "type" :: slots.flatMap slotKeys ++ plainKeys)
    (hidle : key ∉ idleKeys o) : keeps o key = true := by
  simp [keeps, isRootKey_of_mem hroot, hidle]

theorem mem_slotKeys {i : Fin slotCount} {key : String} (hkey : key ∈ slotKeys i) :
    key ∈ "type" :: slots.flatMap slotKeys ++ plainKeys :=
  List.mem_append_left _ (List.mem_cons_of_mem _
    (List.mem_flatMap.2 ⟨i, List.mem_finRange i, hkey⟩))

theorem keeps_plain {o : Object} {key : String} (hkey : key ∈ "type" :: plainKeys) :
    keeps o key = true := by
  refine keeps_of_not_mem ?_ (not_mem_idleKeys hkey)
  rcases List.mem_cons.1 hkey with rfl | hkey
  · exact List.mem_append_left _ List.mem_cons_self
  · exact List.mem_append_right _ hkey

theorem keeps_messageKey (o : Object) (i : Fin slotCount) :
    keeps o (messageKey i) = true := by
  refine keeps_of_not_mem (mem_slotKeys (i := i) List.mem_cons_self) ?_
  simp [mem_idleKeys]

theorem keeps_argumentsKey (o : Object) (i : Fin slotCount) :
    keeps o (argumentsKey i) = true ↔
      o.has (messageKey i) = true ∧ o.get? (argumentsKey i) ≠ some (.list []) := by
  have hroot : isRootKey (argumentsKey i) = true :=
    isRootKey_of_mem (mem_slotKeys (i := i) (by simp [slotKeys]))
  simp [keeps, hroot, argumentsKey_mem_idleKeys]

theorem keeps_alignKey (o : Object) (i : Fin slotCount) :
    keeps o (alignKey i) = o.has (messageKey i) := by
  have hroot : isRootKey (alignKey i) = true :=
    isRootKey_of_mem (mem_slotKeys (i := i) (by simp [slotKeys]))
  cases hmessage : o.has (messageKey i) <;>
    simp [keeps, hroot, alignKey_mem_idleKeys, hmessage]

end NormalForm

end EditorBlocks
