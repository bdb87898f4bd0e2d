import EditorBlocks.Proofs.KeptRules
import EditorBlocks.Proofs.Modes
import EditorBlocks.Proofs.Provenance
import EditorBlocks.Proofs.References
import Mathlib.Data.List.Perm.Basic

/-!
# Placeholders and arguments correspond

The references of a message are checked one after the other, with the numbers
that came before at hand.  What a single step keeps is that no number was seen
twice; so a message without errors refers to every argument of its slot once,
and to nothing else.  Names and the alignment are checked beside it, on the raw
entries, and what they say carries over to the arguments of the definition.
-/

namespace EditorBlocks

open Schema Validation Template Violations

/-! ## References of a message -/

namespace Template

theorem mem_references_of_oversized {tokens : List Token} {digits : String}
    (hmem : .oversized digits ∈ tokens) : (oversizedNumber, digits) ∈ references tokens :=
  List.mem_filterMap.2 ⟨.oversized digits, hmem, rfl⟩

/-- Without oversized ones the references are the placeholders. -/
theorem map_fst_references {tokens : List Token}
    (hsmall : ∀ digits, .oversized digits ∉ tokens) :
    (references tokens).map Prod.fst = placeholders tokens := by
  induction tokens with
  | nil => rfl
  | cons token rest ih =>
      have hrest : ∀ digits, .oversized digits ∉ rest :=
        fun digits hmem => hsmall digits (List.mem_cons_of_mem token hmem)
      have htail := ih hrest
      cases token with
      | text literal => exact htail
      | escape => exact htail
      | placeholder n => exact congrArg (n :: ·) htail
      | oversized digits => exact absurd List.mem_cons_self (hsmall digits)

end Template

namespace Validation

/-- One reference that passes is in range, and it is the first to its argument. -/
theorem fresh_of_silent_reference {i : Fin slotCount} {count : Nat} {before : List Nat}
    {reference : Nat × String} (hbefore : before.Nodup)
    (hsilent : (checkReference i count before reference).hasErrors = false) :
    (1 ≤ reference.1 ∧ reference.1 ≤ count) ∧ reference.1 ∉ before := by
  obtain ⟨n, written⟩ := reference
  simp only [checkReference] at hsilent ⊢
  split at hsilent
  next =>
    rw [hasErrors_violation rfl] at hsilent
    contradiction
  next hrange =>
    have hcount : before.count n ≠ 1 := not_of_silent rfl hsilent
    have hle : before.count n ≤ 1 := List.nodup_iff_count_le_one.1 hbefore n
    refine ⟨by omega, ?_⟩
    rw [← List.count_eq_zero]
    omega

theorem nodup_of_silent_references {i : Fin slotCount} {count : Nat}
    {refs : List (Nat × String)} {before : List Nat} (hbefore : before.Nodup)
    (hsilent : (checkReferences i count before refs).hasErrors = false) :
    (before ++ refs.map Prod.fst).Nodup ∧
      ∀ n ∈ refs.map Prod.fst, 1 ≤ n ∧ n ≤ count := by
  induction refs generalizing before with
  | nil => simpa using hbefore
  | cons reference rest ih =>
      rw [checkReferences, hasErrors_append, Bool.or_eq_false_iff] at hsilent
      obtain ⟨hrange, hfresh⟩ := fresh_of_silent_reference hbefore hsilent.1
      -- The numbers seen so far still differ, which is all the next step asks for.
      have hnext : (before ++ [reference.1]).Nodup := by
        rw [List.nodup_append]
        refine ⟨hbefore, List.nodup_singleton _, ?_⟩
        intro n hn m hm heq
        rw [List.mem_singleton] at hm
        exact hfresh (hm ▸ heq ▸ hn)
      obtain ⟨hnodup, hrest⟩ := ih hnext hsilent.2
      refine ⟨by simpa using hnodup, ?_⟩
      rw [List.map_cons, List.forall_mem_cons]
      exact ⟨hrange, hrest⟩

theorem mem_of_silent_referenced {i : Fin slotCount} {numbers : List Nat}
    {names : List (Option String)}
    (hsilent : hasErrors (names.zipIdx.flatMap fun (name, position) =>
      checkReferenced i numbers position name) = false)
    {position : Nat} (hposition : position < names.length) :
    position + 1 ∈ numbers := by
  have hentry : (names[position], position) ∈ names.zipIdx :=
    List.mk_mem_zipIdx_iff_getElem?.2 (List.getElem?_eq_getElem hposition)
  have hreferenced := hasErrors_flatMap_eq_false_iff.1 hsilent _ hentry
  simp only [checkReferenced] at hreferenced
  rw [← ite_not] at hreferenced
  have hcontains := not_not.1 (not_of_silent rfl hreferenced)
  rwa [List.contains_iff_mem] at hcontains

theorem perm_of_silent_placeholders {i : Fin slotCount} {tokens : List Token}
    {names : List (Option String)}
    (hsilent : (checkPlaceholders [] i tokens names).hasErrors = false) :
    ((references tokens).map Prod.fst).Perm (List.range' 1 names.length) := by
  rw [checkPlaceholders_eq_references, hasErrors_append, Bool.or_eq_false_iff] at hsilent
  obtain ⟨hreferences, hreferenced⟩ := hsilent
  obtain ⟨hnodup, hrange⟩ := nodup_of_silent_references List.nodup_nil hreferences
  rw [List.nil_append] at hnodup
  -- Neither list has a number twice, so it is enough that they have the same numbers.
  rw [List.perm_ext_iff_of_nodup hnodup List.nodup_range']
  intro n
  rw [List.mem_range'_1]
  constructor
  · intro hn
    have := hrange n hn
    omega
  · intro hn
    have hposition : n - 1 < names.length := by omega
    have hmem := mem_of_silent_referenced hreferenced hposition
    rwa [Nat.sub_add_cancel hn.1] at hmem

/-- An oversized placeholder counts as a reference beyond the end of the list. -/
theorem not_mem_oversized_of_perm {tokens : List Token} {count : Nat}
    (hperm : ((references tokens).map Prod.fst).Perm (List.range' 1 count))
    (hcount : count < oversizedNumber) (digits : String) : .oversized digits ∉ tokens := by
  intro hmem
  have hnumber : oversizedNumber ∈ (references tokens).map Prod.fst :=
    List.mem_map_of_mem (f := Prod.fst) (mem_references_of_oversized hmem)
  have hrange := hperm.mem_iff.1 hnumber
  rw [List.mem_range'_1] at hrange
  omega

end Validation

/-! ## Slots that are read without errors -/

namespace Slot

theorem filterMap_argument?_range (slot : Slot) :
    (List.range' 1 slot.arguments.length).filterMap slot.argument? = slot.arguments := by
  have hentries : ∀ items : List Argument,
      (List.range items.length).filterMap (fun position => items[position]?) = items := by
    intro items
    induction items with
    | nil => rfl
    | cons item rest ih =>
        simpa [List.range_succ_eq_map, List.filterMap_map, Function.comp_def] using ih
  rw [List.range'_eq_map_range, List.filterMap_map]
  have hnumber : slot.argument? ∘ (fun position => 1 + position) =
      fun position => slot.arguments[position]? := by
    funext position
    simp [argument?]
  rw [hnumber, hentries]

end Slot

namespace Validation

namespace ReadsAs

variable {mode : Mode} {o : Object} {slot : Slot}

theorem names (hreads : ReadsAs mode o slot) :
    (entries slot.index o).map argumentName? =
      slot.arguments.map fun a => some a.name := by
  symm
  refine map_of_mapM hreads.arguments fun item _ a hread => ?_
  obtain ⟨members, rfl, hname, -, -⟩ := Argument.exists_object_of_ofJson? hread
  exact hname.symm

theorem kinds (hreads : ReadsAs mode o slot) :
    (entries slot.index o).map argumentKind? =
      slot.arguments.map fun a => some a.kind := by
  symm
  refine map_of_mapM hreads.arguments fun item _ a hread => ?_
  obtain ⟨members, rfl, -, hkind, -⟩ := Argument.exists_object_of_ofJson? hread
  exact hkind.symm

theorem isInputAt_eq (hreads : ReadsAs mode o slot) (number : Nat) :
    isInputAt ((entries slot.index o).map argumentKind?) number =
      (slot.argument? number).map Argument.isInput := by
  rw [hreads.kinds]
  unfold isInputAt Slot.argument?
  by_cases hzero : number = 0
  · simp [hzero]
  · simp only [hzero, if_false, List.getElem?_map]
    cases slot.arguments[number - 1]? with
    | none => rfl
    | some a => simp [Argument.isInput_kind]

theorem silent_message (hreads : ReadsAs mode o slot) (hrules : mode.checksRules = true) :
    (checkMessage [] slot.index o slot.message).hasErrors = false :=
  hasErrors_eq_false_of_sublist (checkMessage_sublist_checkSlot hrules hreads.message)
    hreads.silent

theorem nodup_names (hreads : ReadsAs mode o slot) (hrules : mode.checksRules = true) :
    (slot.arguments.map Argument.name).Nodup := by
  have hsilent := hreads.silent_message hrules
  simp only [checkMessage, hasErrors_append, Bool.or_eq_false_iff, hreads.names] at hsilent
  have hrepeats : repeats (slot.arguments.map fun a => some a.name) = [] := by
    have herrors := hsilent.1.1
    unfold checkNames at herrors
    cases hfound : repeats (slot.arguments.map fun a => some a.name) with
    | nil => rfl
    | cons found rest =>
        rw [hfound, List.map_cons, ← List.singleton_append, hasErrors_append,
          hasErrors_violation rfl] at herrors
        contradiction
  simpa [List.filterMap_map, Function.comp_def] using nodup_of_repeats hrepeats

theorem perm_references (hreads : ReadsAs mode o slot) (hrules : mode.checksRules = true) :
    ((references slot.tokens).map Prod.fst).Perm (List.range' 1 slot.arguments.length) := by
  have hsilent := hreads.silent_message hrules
  simp only [checkMessage, hasErrors_append, Bool.or_eq_false_iff, hreads.names] at hsilent
  simpa [Slot.tokens] using perm_of_silent_placeholders hsilent.1.2

theorem not_mem_oversized (hreads : ReadsAs mode o slot) (hrules : mode.checksRules = true)
    (hsize : slot.arguments.length < oversizedNumber) (digits : String) :
    .oversized digits ∉ slot.tokens :=
  not_mem_oversized_of_perm (hreads.perm_references hrules) hsize digits

theorem perm_placeholders (hreads : ReadsAs mode o slot) (hrules : mode.checksRules = true)
    (hsize : slot.arguments.length < oversizedNumber) :
    (placeholders slot.tokens).Perm (List.range' 1 slot.arguments.length) := by
  rw [← map_fst_references (hreads.not_mem_oversized hrules hsize)]
  exact hreads.perm_references hrules

/-- Building an argument keeps its place and whether it is an input. -/
theorem impliesDummy_eq (hreads : ReadsAs mode o slot) :
    impliesDummy (tokenize slot.message)
      (isInputAt ((entries slot.index o).map argumentKind?)) = slot.impliesDummy := by
  have hinput : isInputAt ((entries slot.index o).map argumentKind?) =
      fun number => (slot.argument? number).map Argument.isInput :=
    funext hreads.isInputAt_eq
  rw [hinput, Slot.impliesDummy, Slot.tokens]

/-- Where nothing at all is reported, an alignment has a dummy input to align. -/
theorem impliesDummy_of_align (hreads : ReadsAs mode o slot) (hrules : mode.checksRules = true)
    (hnone : checkSlot mode o slot.index = []) (halign : slot.align.isSome = true) :
    slot.impliesDummy = true := by
  have hmessage : checkMessage [] slot.index o slot.message = [] := by
    have hpart := checkMessage_sublist_checkSlot hrules hreads.message
    rwa [hnone, List.sublist_nil] at hpart
  simp only [checkMessage, List.append_eq_nil_iff] at hmessage
  have hshaped : (shaped? o (Schema.align slot.index)).isSome = true := by
    obtain ⟨found, hfound⟩ := Option.isSome_iff_exists.1 halign
    rw [← hreads.align] at hfound
    obtain ⟨text, htext, -⟩ := Option.bind_eq_some_iff.1 hfound
    obtain ⟨value, hvalue, hstring⟩ := Option.bind_eq_some_iff.1 htext
    obtain rfl := Json.eq_of_string? hstring
    simp [shaped?, Schema.align, Constraint.optional, hvalue, Shape.admits, Json.isString]
  by_contra hdummy
  have hreported := hmessage.2
  simp [checkAlign, hshaped, hreads.impliesDummy_eq, hdummy] at hreported

end ReadsAs

end Validation

/-! ## Accepted blocks -/

/-- The message of the slot names each argument once and nothing else, and no two
arguments share a name. -/
structure Slot.Corresponds (slot : Slot) : Prop where
  small : ∀ digits, .oversized digits ∉ slot.tokens
  once : ∀ n, (placeholders slot.tokens).count n =
    if 1 ≤ n ∧ n ≤ slot.arguments.length then 1 else 0
  inOrder : slot.inMessageOrder.Perm slot.arguments
  names : (slot.arguments.map Argument.name).Nodup

namespace Validation

theorem ReadsAs.corresponds {mode : Mode} {o : Object} {slot : Slot}
    (hreads : ReadsAs mode o slot) (hrules : mode.checksRules = true)
    (hsize : slot.arguments.length < oversizedNumber) : slot.Corresponds := by
  have hperm := hreads.perm_placeholders hrules hsize
  refine ⟨hreads.not_mem_oversized hrules hsize, ?_, ?_, hreads.nodup_names hrules⟩
  · intro n
    rw [hperm.count_eq]
    split
    next hrange =>
      apply List.count_eq_one_of_mem List.nodup_range'
      rw [List.mem_range'_1]
      omega
    next hrange =>
      rw [List.count_eq_zero, List.mem_range'_1]
      omega
  · have hmapped := hperm.filterMap slot.argument?
    rwa [slot.filterMap_argument?_range] at hmapped

/-- In every slot of an accepted block the message and the arguments correspond,
the slots are in order, and in the strict mode an alignment has something to align.
No list that fits in memory is as long as the number for oversized placeholders. -/
theorem placeholders_correspond {c : Context} {document : Json} {d : Definition}
    (hmode : c.mode = .strict ∨ c.mode = .tolerant)
    (haccepted : (validate c document).definition = some d)
    (hsize : ∀ slot ∈ d.slots, slot.arguments.length < oversizedNumber) :
    d.slots.Pairwise (fun a b => a.index.val < b.index.val) ∧
      ∀ slot ∈ d.slots, slot.index.val ≤ 9 ∧ slot.Corresponds ∧
        (c.mode = .strict → slot.align.isSome = true → slot.impliesDummy = true) := by
  have hrules : c.mode.checksRules = true := by
    rcases hmode with hmode | hmode <;> rw [hmode] <;> rfl
  obtain ⟨o, rfl, -, -, hslots⟩ := slots_of_accepted haccepted
  refine ⟨hslots ▸ pairwise_index_slots c.mode o, fun slot hmem => ?_⟩
  have hreads : ReadsAs c.mode o slot := readsAs_of_mem (hslots ▸ hmem)
  refine ⟨Nat.le_of_lt_succ slot.index.isLt, hreads.corresponds hrules (hsize slot hmem), ?_⟩
  intro hstrict
  have hblock : checkBlock c.atRoot o = [] := checkDocument_eq_nil_of_strict hstrict haccepted
  have hslot := checkSlot_sublist_checkBlock (o := o) c slot.index
  rw [hblock, List.sublist_nil] at hslot
  exact hreads.impliesDummy_of_align hrules hslot

/-- A message that names its two arguments in the other order, and one without any. -/
theorem placeholders_correspond_swapped :
    let times := Argument.field "TIMES" none (.number ⟨none, none, none, none⟩)
    let body := Argument.input "BODY" .statement none
    let document := Json.object [
      ("args0", .list [.object [("name", .string "TIMES"), ("type", .string "field_number")],
        .object [("name", .string "BODY"), ("type", .string "input_statement")]]),
      ("lastDummyAlign4", .string "RIGHT"),
      ("message0", .string "%2 at %1"),
      ("message4", .string "100%%"),
      ("previousStatement", .null),
      ("type", .string "repeat")]
    let d : Definition :=
      ⟨"repeat", .statement (some .any) none,
        [⟨⟨0, by decide⟩, "%2 at %1", [times, body], none⟩,
          ⟨⟨4, by decide⟩, "100%%", [], some .right⟩],
        none, none, none, none, none, none, none⟩
    (validate ⟨.strict, none, none, []⟩ document).definition = some d ∧
      (∀ slot ∈ d.slots, slot.arguments.length < oversizedNumber) ∧
      d.slots.map Slot.inMessageOrder = [[body, times], []] ∧
      d.slots.Pairwise (fun a b => a.index.val < b.index.val) ∧
      ∀ slot ∈ d.slots, slot.index.val ≤ 9 ∧ slot.Corresponds ∧
        (slot.align.isSome = true → slot.impliesDummy = true) := by
  intro times body document d
  have haccepted : (validate ⟨.strict, none, none, []⟩ document).definition = some d := by
    decide +kernel
  have hsize : ∀ slot ∈ d.slots, slot.arguments.length < oversizedNumber := by
    decide
  have hinOrder : d.slots.map Slot.inMessageOrder = [[body, times], []] := by
    decide +kernel
  obtain ⟨horder, hslots⟩ := placeholders_correspond (.inl rfl) haccepted hsize
  refine ⟨haccepted, hsize, hinOrder, horder, fun slot hmem => ?_⟩
  obtain ⟨hindex, hcorresponds, halign⟩ := hslots slot hmem
  exact ⟨hindex, hcorresponds, halign rfl⟩

end Validation

end EditorBlocks
