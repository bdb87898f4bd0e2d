import EditorBlocks.Proofs.Silence
import Mathlib.Data.List.Basic
import Mathlib.Data.List.Flatten
import Mathlib.Data.List.Nodup

/-!
# Rules that are kept

What a rule reports is part of what is reported for its key, for its argument,
for the slot and for the whole block.  So where nothing is reported for a block,
or no error, none is reported for any rule in it, and each rule says what it
means of the value it was checked on.
-/

namespace EditorBlocks.Validation

open Schema Violations

/-! ## Parts of a report -/

section Parts

variable {mode : Mode} {o : Object}

theorem sublist_flatMap_of_mem {α β : Type} {f : α → List β} {xs : List α} {x : α}
    (hmem : x ∈ xs) : (f x).Sublist (xs.flatMap f) := by
  have hpart := (List.singleton_sublist.2 hmem).flatMap f
  rwa [List.flatMap_singleton] at hpart

theorem checkRule_sublist_checkConstraint {c : Constraint} {value : Json} {rule : Rule}
    (hvalue : o.get? c.key = some value) (hshape : c.shape.admits value = true)
    (hrule : rule ∈ c.rules) :
    (under [.key c.key] (checkRule mode c.key value rule)).Sublist
      (checkConstraint mode o c) := by
  have hpart : (checkRule mode c.key value rule).Sublist (checkValue mode c value) := by
    simp only [checkValue, hshape, Bool.not_true, Bool.false_eq_true, if_false]
    exact (sublist_flatMap_of_mem hrule).trans (List.sublist_append_right _ _)
  simp only [checkConstraint_root, hvalue]
  exact hpart.map _

theorem checkOptions_sublist_checkConstraint {c : Constraint} {items : List Json}
    (hshape : c.shape = .options) (hvalue : o.get? c.key = some (.list items)) :
    (under [.key c.key] (checkOptions mode items)).Sublist (checkConstraint mode o c) := by
  have hpart : (checkOptions mode items).Sublist (checkValue mode c (.list items)) := by
    simp only [checkValue, hshape, Shape.admits, Json.isList, Bool.not_true,
      Bool.false_eq_true, if_false]
    exact List.sublist_append_left _ _
  simp only [checkConstraint_root, hvalue]
  exact hpart.map _

theorem checkConstraint_sublist_checkArgument {kind : ArgumentKind} {c : Constraint}
    (hkind : argumentKind? (.object o) = some kind)
    (hc : c ∈ (argument kind).constraints) :
    (checkConstraint mode o c).Sublist (checkArgument mode (.object o)) := by
  simp only [checkArgument, hkind, checkKnownArgument, List.append_assoc]
  exact (sublist_flatMap_of_mem hc).trans (List.sublist_append_left _ _)

theorem checkJointRule_sublist_checkArgument {kind : ArgumentKind} {rule : JointRule}
    (hrules : mode.checksRules = true) (hkind : argumentKind? (.object o) = some kind)
    (hrule : rule ∈ (argument kind).rules) :
    (checkJointRule [] o rule).Sublist (checkArgument mode (.object o)) := by
  simp only [checkArgument, hkind, checkKnownArgument, hrules, if_true]
  exact (sublist_flatMap_of_mem hrule).trans (List.sublist_append_right _ _)

theorem checkArgument_sublist_checkSlot {i : Fin slotCount} {item : Json}
    (hmem : item ∈ entries i o) :
    ∃ place, (under place (checkArgument mode item)).Sublist (checkSlot mode o i) := by
  obtain ⟨p, hp⟩ := List.mem_iff_getElem?.1 hmem
  refine ⟨[.key (argumentsKey i), .index p], ?_⟩
  have hentry : (item, p) ∈ (entries i o).zipIdx := List.mk_mem_zipIdx_iff_getElem?.2 hp
  have hpart : (under [.key (argumentsKey i), .index p] (checkArgument mode item)).Sublist
      (checkEntries mode i (entries i o)) := by
    rw [checkEntries_root]
    exact sublist_flatMap_of_mem
      (f := fun m => under [.key (argumentsKey i), .index m.2] (checkArgument mode m.1))
      hentry
  exact hpart.trans (List.sublist_append_left _ _)

theorem checkMessage_sublist_checkSlot {i : Fin slotCount} {message : String}
    (hrules : mode.checksRules = true)
    (hmessage : (o.get? (messageKey i)).bind Json.string? = some message) :
    (checkMessage [] i o message).Sublist (checkSlot mode o i) := by
  simp only [checkSlot, hmessage, hrules, if_true]
  exact List.sublist_append_right _ _

theorem checkConstraint_sublist_checkBlock (c : Context) {constraint : Constraint}
    (hmem : constraint ∈ rootConstraints o) :
    (checkConstraint c.mode o constraint).Sublist (checkBlock c.atRoot o) := by
  have hpart : (checkConstraint c.mode o constraint).Sublist
      (checkConstraints c.mode o (rootConstraints o)) :=
    sublist_flatMap_of_mem hmem
  simp only [checkBlock_atRoot, List.append_assoc]
  exact (hpart.trans (List.sublist_append_left _ _)).trans (List.sublist_append_right _ _)

theorem checkSlot_sublist_checkBlock (c : Context) (i : Fin slotCount) :
    (checkSlot c.mode o i).Sublist (checkBlock c.atRoot o) := by
  have hslot := sublist_flatMap_of_mem (f := checkSlot c.mode o) (List.mem_finRange i)
  rw [checkBlock_atRoot]
  exact hslot.trans (List.sublist_append_right _ _)

end Parts

/-! ## Repeated keys -/

theorem idxOf_eq_iff {α : Type} [BEq α] [LawfulBEq α] {xs : List α} {x : α} {i : Nat}
    (hmem : x ∈ xs) :
    xs.idxOf x = i ↔ xs[i]? = some x ∧ ∀ j, j < i → xs[j]? ≠ some x := by
  have hbefore : ∀ j, j < xs.idxOf x → xs[j]? ≠ some x := by
    intro j hlt hentry
    obtain ⟨hbound, hx⟩ := List.getElem?_eq_some_iff.1 hentry
    have hother := List.not_of_lt_findIdx hlt
    simp [hx] at hother
  constructor
  · rintro rfl
    exact ⟨List.getElem?_idxOf hmem, hbefore⟩
  · rintro ⟨hentry, hfirst⟩
    apply Nat.le_antisymm
    · exact Nat.le_of_not_lt fun hlt => hbefore i hlt hentry
    · exact Nat.le_of_not_lt fun hlt => hfirst _ hlt (List.getElem?_idxOf hmem)

/-- The position that is told is that of the first entry with the key. -/
theorem earlier?_eq_some_iff {keys : List (Option String)} {position first : Nat} :
    earlier? keys position = some first ↔
      first < position ∧ ∃ key, keys[position]? = some (some key) ∧
        keys[first]? = some (some key) ∧
        ∀ before, before < first → keys[before]? ≠ some (some key) := by
  unfold earlier?
  split
  next key hkey =>
    have hmem : some key ∈ keys := List.mem_of_getElem? hkey
    simp only [Option.ite_none_right_eq_some, Option.some.injEq, idxOf_eq_iff hmem]
    constructor
    · rintro ⟨hlt, hfirst⟩
      obtain rfl := (idxOf_eq_iff hmem).2 hfirst
      exact ⟨hlt, key, hkey, hfirst⟩
    · rintro ⟨hlt, other, hother, hfirst⟩
      obtain rfl : key = other := by simpa [hkey] using hother
      obtain rfl := (idxOf_eq_iff hmem).2 hfirst
      exact ⟨hlt, hfirst⟩
  next hnone =>
    refine iff_of_false nofun ?_
    rintro ⟨-, key, hkey, -⟩
    exact hnone key hkey

/-- An entry repeats a key exactly when one before it has the key. -/
theorem exists_earlier?_iff {keys : List (Option String)} {position : Nat} :
    (∃ first, earlier? keys position = some first) ↔
      ∃ key first, first < position ∧ keys[first]? = some (some key) ∧
        keys[position]? = some (some key) := by
  constructor
  · rintro ⟨first, hearlier⟩
    obtain ⟨hlt, key, hposition, hfirst, -⟩ := earlier?_eq_some_iff.1 hearlier
    exact ⟨key, first, hlt, hfirst, hposition⟩
  · rintro ⟨key, found, hlt, hfound, hposition⟩
    obtain ⟨hfirst, hbefore⟩ := (idxOf_eq_iff (List.mem_of_getElem? hposition)).1 rfl
    have hle : keys.idxOf (some key) ≤ found :=
      Nat.le_of_not_lt fun hafter => hbefore found hafter hfound
    exact ⟨keys.idxOf (some key),
      earlier?_eq_some_iff.2 ⟨Nat.lt_of_le_of_lt hle hlt, key, hposition, hfirst, hbefore⟩⟩

theorem mem_repeats_iff {keys : List (Option String)} {position first : Nat} :
    (position, first) ∈ repeats keys ↔ earlier? keys position = some first := by
  simp only [repeats, List.mem_filterMap, List.mem_range, Option.map_eq_some_iff, Prod.mk.injEq]
  constructor
  · rintro ⟨_, -, _, hearlier, rfl, rfl⟩
    exact hearlier
  · intro hearlier
    obtain ⟨-, key, hkey, -⟩ := earlier?_eq_some_iff.1 hearlier
    exact ⟨position, (List.getElem?_eq_some_iff.1 hkey).1, first, hearlier, rfl, rfl⟩

/-- The keys that are there are distinct when no two entries have the same. -/
theorem nodup_keys_iff {keys : List (Option String)} :
    (keys.filterMap id).Nodup ↔ ∀ first second : Nat, first < second → ∀ key,
      keys[first]? = some (some key) → keys[second]? ≠ some (some key) := by
  rw [List.Nodup, List.pairwise_filterMap, List.pairwise_iff_getElem]
  constructor
  · intro hdistinct first second hlt key hfirst hsecond
    obtain ⟨hi, hkeyi⟩ := List.getElem?_eq_some_iff.1 hfirst
    obtain ⟨hj, hkeyj⟩ := List.getElem?_eq_some_iff.1 hsecond
    exact hdistinct first second hi hj hlt key hkeyi key hkeyj rfl
  · rintro hdistinct i j hi hj hlt key hkeyi _ hkeyj rfl
    exact hdistinct i j hlt key (List.getElem?_eq_some_iff.2 ⟨hi, hkeyi⟩)
      (List.getElem?_eq_some_iff.2 ⟨hj, hkeyj⟩)

/-- When no entry has an earlier one with its key, the keys are distinct. -/
theorem nodup_of_earlier? {keys : List (Option String)}
    (hnone : ∀ i, i < keys.length → earlier? keys i = none) :
    (keys.filterMap id).Nodup := by
  rw [nodup_keys_iff]
  intro first second hlt key hfirst hsecond
  obtain ⟨found, hearlier⟩ := exists_earlier?_iff.2 ⟨key, first, hlt, hfirst, hsecond⟩
  rw [hnone second (List.getElem?_eq_some_iff.1 hsecond).1] at hearlier
  contradiction

theorem nodup_of_repeats {keys : List (Option String)} (hnone : repeats keys = []) :
    (keys.filterMap id).Nodup := by
  apply nodup_of_earlier?
  intro i _
  rw [Option.eq_none_iff_forall_ne_some]
  intro first hearlier
  have hmem := mem_repeats_iff.2 hearlier
  rw [hnone] at hmem
  contradiction

/-! ## Rules of an argument -/

section Arguments

variable {mode : Mode} {o : Object} {kind : ArgumentKind}

theorem silent_jointRule (hrules : mode.checksRules = true)
    (hkind : argumentKind? (.object o) = some kind)
    (hsilent : (checkArgument mode (.object o)).hasErrors = false) (rule : JointRule)
    (hrule : rule ∈ (argument kind).rules) :
    (checkJointRule [] o rule).hasErrors = false :=
  hasErrors_eq_false_of_sublist (checkJointRule_sublist_checkArgument hrules hkind hrule)
    hsilent

theorem silent_constraint (hkind : argumentKind? (.object o) = some kind)
    (hsilent : (checkArgument mode (.object o)).hasErrors = false) {c : Constraint}
    (hc : c ∈ (argument kind).constraints) :
    (checkConstraint mode o c).hasErrors = false :=
  hasErrors_eq_false_of_sublist (checkConstraint_sublist_checkArgument hkind hc) hsilent

theorem silent_rule {c : Constraint} {value : Json}
    (hsilent : (checkConstraint mode o c).hasErrors = false)
    (hvalue : o.get? c.key = some value) (rule : Rule) (hrule : rule ∈ c.rules) :
    (checkRule mode c.key value rule).hasErrors = false := by
  have hshape : c.shape.admits value = true :=
    ((meets_of_silent hsilent).fits value hvalue).shape
  rw [← hasErrors_under [.key c.key]]
  exact hasErrors_eq_false_of_sublist
    (checkRule_sublist_checkConstraint hvalue hshape hrule) hsilent

theorem silent_options {c : Constraint} {items : List Json}
    (hsilent : (checkConstraint mode o c).hasErrors = false) (hshape : c.shape = .options)
    (hvalue : o.get? c.key = some (.list items)) :
    (checkOptions mode items).hasErrors = false := by
  rw [← hasErrors_under [.key c.key]]
  exact hasErrors_eq_false_of_sublist (checkOptions_sublist_checkConstraint hshape hvalue)
    hsilent

end Arguments

/-! ## What rules say -/

section Meaning

variable {mode : Mode} {key : String}

theorem ne_nil_of_nonEmpty {items : List Json} (hrules : mode.checksRules = true)
    (hsilent : (checkRule mode key (.list items) .nonEmpty).hasErrors = false) :
    items ≠ [] := by
  simp only [checkRule, hrules, Bool.not_true, Bool.false_eq_true, if_false,
    checkNonEmpty] at hsilent
  simpa using not_of_silent rfl hsilent

theorem not_negative_of_nonNegative {n : Number} (hrules : mode.checksRules = true)
    (hsilent : (checkRule mode key (.number n) .nonNegative).hasErrors = false) :
    ¬n.toFloat < 0.0 := by
  simp only [checkRule, hrules, Bool.not_true, Bool.false_eq_true, if_false] at hsilent
  exact not_of_silent rfl hsilent

theorem hue_of_hueInRange {n : Number} (hrules : mode.checksRules = true)
    (hsilent : (checkRule mode key (.number n) .hueInRange).hasErrors = false) :
    0.0 ≤ n.toFloat ∧ n.toFloat ≤ 360.0 := by
  simp only [checkRule, hrules, Bool.not_true, Bool.false_eq_true, if_false] at hsilent
  rw [← ite_not] at hsilent
  exact not_not.1 (not_of_silent rfl hsilent)

/-- Both halves of this rule are warnings, so it takes a report without any. -/
theorem distinct_of_distinctTypes {items : List Json} (hrules : mode.checksRules = true)
    (hnone : checkRule mode key (.list items) .distinctTypes = []) :
    items ≠ [] ∧ ((items.map Json.string?).filterMap id).Nodup := by
  simp only [checkRule, hrules, Bool.not_true, Bool.false_eq_true, if_false,
    checkDistinctTypes, List.append_eq_nil_iff, List.map_eq_nil_iff] at hnone
  obtain ⟨hempty, hrepeats⟩ := hnone
  refine ⟨?_, nodup_of_repeats hrepeats⟩
  rintro rfl
  simp at hempty

theorem nodup_of_silent_checkOptions {options : List Json} (hrules : mode.checksRules = true)
    (hsilent : (checkOptions mode options).hasErrors = false) :
    ((options.map optionValue?).filterMap id).Nodup := by
  apply nodup_of_earlier?
  intro i hi
  rw [List.length_map] at hi
  have hentry : (options[i], i) ∈ options.zipIdx :=
    List.mk_mem_zipIdx_iff_getElem?.2 (List.getElem?_eq_getElem hi)
  have hoption := hasErrors_flatMap_eq_false_iff.1 hsilent _ hentry
  simp only [checkOption, hrules, if_true, hasErrors_append, Bool.or_eq_false_iff] at hoption
  cases hearlier : earlier? (options.map optionValue?) i with
  | none => rfl
  | some first =>
      have herror := hoption.2
      rw [hearlier, Option.map_some, Option.toList_some, hasErrors_violation rfl] at herror
      contradiction

end Meaning

end EditorBlocks.Validation
