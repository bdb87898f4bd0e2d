import EditorBlocks.Proofs.Kinds
import EditorBlocks.Proofs.Places
import EditorBlocks.Proofs.Provenance
import EditorBlocks.Proofs.References

/-!
# Slots and arguments are checked independently

What is reported for a slot is a function of the values under its three keys,
and so is the slot that is built.  Within a slot, what is reported for an
argument is a function of its entry, but for the two findings that compare an
entry with others: a name that is used again and an argument that the message
does not refer to.
-/

namespace EditorBlocks

open NormalForm Schema Violations

/-- The kinds of violations that tell of an argument among others. -/
def Violation.Kind.comparesEntries : Violation.Kind → Bool
  | .duplicateName | .unreferencedArgument _ => true
  | _ => false

/-- The violations that tell of a value alone. -/
def Violations.alone (vs : Violations) : Violations := vs.filter fun v => !v.kind.comparesEntries

theorem flatMap_eq_of_unique {α β : Type} {f : α → List β} {xs : List α} {x : α}
    (hnodup : xs.Nodup) (hmem : x ∈ xs) (hrest : ∀ y ∈ xs, y ≠ x → f y = []) :
    xs.flatMap f = f x := by
  induction xs with
  | nil => contradiction
  | cons y ys ih =>
      obtain ⟨hfresh, hnodup⟩ := List.nodup_cons.1 hnodup
      rw [List.flatMap_cons]
      by_cases heq : y = x
      · subst heq
        have hnone : ys.flatMap f = [] := by
          rw [List.flatMap_eq_nil_iff]
          intro z hz
          apply hrest z (List.mem_cons_of_mem y hz)
          rintro rfl
          exact hfresh hz
        rw [hnone, List.append_nil]
      · have hlater : x ∈ ys := (List.mem_cons.1 hmem).resolve_left fun h => heq h.symm
        rw [hrest y List.mem_cons_self heq, List.nil_append]
        exact ih hnodup hlater fun z hz => hrest z (List.mem_cons_of_mem y hz)

/-- What is reported at the place of an entry of a list is reported of this entry. -/
theorem within_flatMap_zipIdx {α : Type} (xs : List α) (above : Path) {f : α × Nat → Violations}
    (hlie : ∀ entry, LieUnder (above ++ [.index entry.2]) (f entry)) (position : Nat) :
    within [above ++ [.index position]] (xs.zipIdx.flatMap f) =
      xs[position]?.elim [] fun x => f (x, position) := by
  have hother : ∀ entry : α × Nat, entry.2 ≠ position →
      within [above ++ [.index position]] (f entry) = [] := by
    intro entry hne
    rw [within, List.filter_eq_nil_iff]
    intro v hv hwithin
    simp only [List.any_cons, List.any_nil, Bool.or_false, List.isPrefixOf_iff_prefix] at hwithin
    -- Both places start the same path and are of one length, so they are one place.
    have hprefix := List.prefix_of_prefix_length_le hwithin (hlie entry v hv) (by simp)
    have hsame : above ++ [Segment.index position] = above ++ [.index entry.2] :=
      hprefix.eq_of_length (by simp)
    have hposition : position = entry.2 := by simpa using hsame
    exact hne hposition.symm
  rw [within_flatMap]
  cases hitem : xs[position]? with
  | none =>
      rw [Option.elim_none, List.flatMap_eq_nil_iff]
      intro entry hentry
      apply hother entry
      rintro rfl
      have hfound := List.mk_mem_zipIdx_iff_getElem?.1 hentry
      rw [hitem] at hfound
      contradiction
  | some x =>
      have hmem : (x, position) ∈ xs.zipIdx := List.mk_mem_zipIdx_iff_getElem?.2 hitem
      have hnodup : xs.zipIdx.Nodup := by
        apply List.Nodup.of_map Prod.snd
        rw [List.zipIdx_map_snd]
        exact List.nodup_range'
      rw [Option.elim_some, flatMap_eq_of_unique hnodup hmem]
      · rw [within, List.filter_eq_self]
        intro v hv
        simpa [List.isPrefixOf_iff_prefix] using hlie (x, position) v hv
      · intro entry hentry hne
        apply hother entry
        intro hposition
        apply hne
        have hfound := List.mk_mem_zipIdx_iff_getElem?.1 hentry
        rw [hposition, hitem] at hfound
        exact Prod.ext (Option.some.inj hfound).symm hposition

namespace Validation

/-! ## Where a slot reports -/

section Places

variable {i : Fin slotCount} {o : Object} {v : Violation}

theorem path_of_mem_checkReferences {count : Nat} {before : List Nat}
    {refs : List (Nat × String)} (hv : v ∈ checkReferences i count before refs) :
    v.path = [.key (messageKey i)] := by
  induction refs generalizing before with
  | nil => contradiction
  | cons reference rest ih =>
      obtain ⟨n, written⟩ := reference
      rw [checkReferences, List.mem_append] at hv
      rcases hv with hfirst | hrest
      · simp only [checkReference] at hfirst
        split at hfirst
        next => rw [List.mem_singleton.1 hfirst, Finding.violation]
        next =>
          split at hfirst
          next => rw [List.mem_singleton.1 hfirst, Finding.violation]
          next => contradiction
      · exact ih hrest

/-- A message has its own place and that of the alignment; what it reports at the
arguments compares them. -/
theorem place_of_mem_checkMessage {text : String} (hv : v ∈ checkMessage [] i o text) :
    v.path = [.key (messageKey i)] ∨ v.path = [.key (alignKey i)] ∨
      (v.kind.comparesEntries = true ∧ [.key (argumentsKey i)] <+: v.path) := by
  simp only [checkMessage, checkPlaceholders_eq_references, List.mem_append] at hv
  rcases hv with (hname | href | hreferenced) | halign
  · obtain ⟨found, -, rfl⟩ := List.mem_map.1 hname
    exact .inr (.inr ⟨rfl, List.prefix_append [_] [_, _]⟩)
  · exact .inl (path_of_mem_checkReferences href)
  · obtain ⟨entry, -, hentry⟩ := List.mem_flatMap.1 hreferenced
    simp only [checkReferenced] at hentry
    split at hentry
    next => contradiction
    next =>
      obtain rfl := List.mem_singleton.1 hentry
      exact .inr (.inr ⟨rfl, List.prefix_append [_] [_]⟩)
  · unfold checkAlign at halign
    split at halign
    next =>
      obtain rfl := List.mem_singleton.1 halign
      exact .inr (.inl rfl)
    next => contradiction

theorem place_of_mem_checkIdle (hv : v ∈ checkIdle [] i o) :
    v.path = [.key (argumentsKey i)] ∨ v.path = [.key (alignKey i)] := by
  obtain ⟨c, hc, hv⟩ := List.mem_flatMap.1 hv
  have hpath : v.path = [.key c.key] := by
    split at hv
    next => exact List.mem_singleton.1 hv ▸ rfl
    next => contradiction
  simp only [List.mem_cons, List.not_mem_nil, or_false] at hc
  rcases hc with rfl | rfl
  · exact .inl hpath
  · exact .inr hpath

theorem place_of_mem_checkEntries {mode : Mode} {items : List Json}
    (hv : v ∈ checkEntries mode i items) : [.key (argumentsKey i)] <+: v.path := by
  rw [checkEntries_root] at hv
  obtain ⟨entry, -, hentry⟩ := List.mem_flatMap.1 hv
  obtain ⟨below, -, rfl⟩ := List.mem_map.1 hentry
  exact List.prefix_append [_] _

theorem exists_key_of_mem_checkSlot {mode : Mode} (hv : v ∈ checkSlot mode o i) :
    ∃ key ∈ slotKeys i, [.key key] <+: v.path := by
  have harguments : argumentsKey i ∈ slotKeys i := by simp [slotKeys]
  have hmessage : messageKey i ∈ slotKeys i := by simp [slotKeys]
  have halign : alignKey i ∈ slotKeys i := by simp [slotKeys]
  rw [checkSlot, List.mem_append] at hv
  rcases hv with hentry | hrest
  · exact ⟨_, harguments, place_of_mem_checkEntries hentry⟩
  · split at hrest
    next =>
      rcases place_of_mem_checkIdle hrest with hpath | hpath
      · exact ⟨_, harguments, hpath ▸ List.prefix_rfl⟩
      · exact ⟨_, halign, hpath ▸ List.prefix_rfl⟩
    next =>
      split at hrest
      next =>
        rcases place_of_mem_checkMessage hrest with hpath | hpath | ⟨-, hprefix⟩
        · exact ⟨_, hmessage, hpath ▸ List.prefix_rfl⟩
        · exact ⟨_, halign, hpath ▸ List.prefix_rfl⟩
        · exact ⟨_, harguments, hprefix⟩
      next => contradiction

end Places

/-! ## The report of a slot -/

/-- What is reported within the keys of a slot. -/
def slotReport (mode : Mode) (o : Object) (i : Fin slotCount) : Violations :=
  checkConstraints mode o [message i, arguments i, align i] ++ checkSlot mode o i

theorem filter_rootConstraints (o : Object) (i : Fin slotCount) :
    (rootConstraints o).filter (fun c => (slotKeys i).contains c.key) =
      [message i, arguments i, align i] := by
  unfold rootConstraints
  split
  · revert i
    decide
  · revert i
    decide

theorem slotKeys_disjoint {i j : Fin slotCount} (hne : i ≠ j) {key : String}
    (hkey : key ∈ slotKeys i) : key ∉ slotKeys j := by
  revert i j key
  decide

theorem within_checkSlot (mode : Mode) (o : Object) (i : Fin slotCount) :
    within (keyPlaces (slotKeys i)) (checkSlot mode o i) = checkSlot mode o i := by
  rw [within, List.filter_eq_self]
  intro v hv
  obtain ⟨key, hkey, hprefix⟩ := exists_key_of_mem_checkSlot hv
  exact (isWithin_keyPlaces hprefix).2 hkey

theorem within_checkSlot_of_ne (mode : Mode) (o : Object) {i j : Fin slotCount} (hne : j ≠ i) :
    within (keyPlaces (slotKeys i)) (checkSlot mode o j) = [] := by
  rw [within, List.filter_eq_nil_iff]
  intro v hv hwithin
  obtain ⟨key, hkey, hprefix⟩ := exists_key_of_mem_checkSlot hv
  exact slotKeys_disjoint hne hkey ((isWithin_keyPlaces hprefix).1 hwithin)

theorem within_checkBlock (c : Context) (o : Object) (i : Fin slotCount) :
    within (keyPlaces (slotKeys i)) (checkBlock c.atRoot o) = slotReport c.mode o i := by
  have hplain : ∀ key ∈ "type" :: plainKeys, key ∉ slotKeys i :=
    fun key hkey => plainKeys_disjoint key hkey i
  have hroot : ∀ key ∈ slotKeys i, isRootKey key = true :=
    fun key hkey => isRootKey_of_mem (mem_slotKeys hkey)
  have hslots : slots.flatMap (fun j => within (keyPlaces (slotKeys i)) (checkSlot c.mode o j)) =
      checkSlot c.mode o i := by
    have hnodup : slots.Nodup := List.nodup_finRange slotCount
    rw [flatMap_eq_of_unique hnodup (List.mem_finRange i)]
    · exact within_checkSlot c.mode o i
    · exact fun j _ hne => within_checkSlot_of_ne c.mode o hne
  simp only [checkBlock_atRoot, within_append, within_flatMap, hslots, within_checkConstraints,
    filter_rootConstraints, within_checkUnknownKeys hroot,
    within_keyPlaces_of_path_nil (path_checkVariant o),
    within_keyPlaces_of_path_nil (path_checkColours c.mode o),
    within_keyPlaces_eq_nil (hplain "extensions" (by decide)) (lieUnder_checkExtensions _ o),
    within_keyPlaces_eq_nil (hplain "mutator" (by decide)) (lieUnder_checkMutator _ o),
    List.nil_append, List.append_nil, slotReport]

/-! ## Objects that agree on a slot -/

section Agreement

variable {first second : Object} {i : Fin slotCount}

theorem entries_congr (hagree : ∀ key ∈ slotKeys i, first.get? key = second.get? key) :
    entries i first = entries i second := by
  rw [entries, hagree (argumentsKey i) (by simp [slotKeys]), entries]

theorem checkSlot_congr (hagree : ∀ key ∈ slotKeys i, first.get? key = second.get? key)
    (mode : Mode) : checkSlot mode first i = checkSlot mode second i := by
  have harguments : shaped? first (arguments i) = shaped? second (arguments i) :=
    congrArg _ (hagree (argumentsKey i) (by simp [slotKeys]))
  have halign : shaped? first (align i) = shaped? second (align i) :=
    congrArg _ (hagree (alignKey i) (by simp [slotKeys]))
  simp only [checkSlot, checkIdle, checkMessage, checkAlign, List.flatMap_cons,
    List.flatMap_nil, entries_congr hagree, hagree (messageKey i) (by simp [slotKeys]),
    harguments, halign]

theorem slotReport_congr (hagree : ∀ key ∈ slotKeys i, first.get? key = second.get? key)
    (mode : Mode) : slotReport mode first i = slotReport mode second i := by
  have hconstraint : ∀ c ∈ [message i, arguments i, align i],
      checkConstraint mode first c = checkConstraint mode second c := by
    intro c hc
    have hkey : c.key ∈ slotKeys i := by
      simp only [List.mem_cons, List.not_mem_nil, or_false] at hc
      rcases hc with rfl | rfl | rfl <;>
        simp [message, arguments, align, Constraint.optional, slotKeys]
    simp only [checkConstraint_root, hagree c.key hkey]
  rw [slotReport, slotReport, checkSlot_congr hagree]
  congr 1
  exact List.flatMap_congr hconstraint

theorem slotOutcome_congr (hagree : ∀ key ∈ slotKeys i, first.get? key = second.get? key)
    (mode : Mode) : slotOutcome mode first i = slotOutcome mode second i := by
  simp only [slotOutcome, checkSlot_congr hagree, entries_congr hagree,
    hagree (messageKey i) (by simp [slotKeys]), hagree (alignKey i) (by simp [slotKeys])]

end Agreement

theorem slot?_of_accepted {c : Context} {o : Object} {d : Definition}
    (haccepted : (validate c (.object o)).definition = some d) (i : Fin slotCount) :
    d.slot? i.val = (slotOutcome c.mode o i).slot? := by
  obtain ⟨_, ⟨rfl⟩, -, -, hslots⟩ := slots_of_accepted haccepted
  -- A slot carries the number it was built at, so a search by number finds no other.
  have hindex : ∀ j slot, (slotOutcome c.mode o j).slot? = some slot → slot.index = j :=
    fun j slot hslot => (readsAs_of_built (slot?_eq_some_iff.1 hslot)).1
  rw [Definition.slot?, hslots, List.find?_filterMap]
  cases hfound : slots.find? fun j =>
      (slotOutcome c.mode o j).slot?.any fun slot => slot.index.val = i.val with
  | some j =>
      have hany := List.find?_some hfound
      cases hslot : (slotOutcome c.mode o j).slot? with
      | none =>
          rw [hslot] at hany
          contradiction
      | some slot =>
          rw [hslot, Option.any_some, hindex j slot hslot, decide_eq_true_iff] at hany
          obtain rfl : j = i := Fin.ext hany
          rfl
  | none =>
      cases houtcome : (slotOutcome c.mode o i).slot? with
      | none => rfl
      | some slot =>
          have hnot := List.find?_eq_none.1 hfound i (List.mem_finRange i)
          rw [houtcome, Option.any_some, hindex i slot houtcome] at hnot
          simp at hnot

/-! ## The report of an entry -/

section Entries

variable {mode : Mode} {o : Object} {i : Fin slotCount}

theorem alone_append {vs ws : Violations} : (vs ++ ws).alone = vs.alone ++ ws.alone :=
  List.filter_append _ _

theorem alone_under {above : Path} {vs : Violations} :
    (under above vs).alone = under above vs.alone := by
  simp only [alone, under, List.filter_map, Function.comp_def, Violation.under]

theorem alone_toErrors {vs : Violations} : vs.toErrors.alone = vs.alone.toErrors := by
  simp only [alone, toErrors, List.filter_map, Function.comp_def, Violation.toError]

def entryPlace (i : Fin slotCount) (position : Nat) : Path :=
  [.key (argumentsKey i), .index position]

theorem alone_checkArgument (item : Json) :
    (checkArgument mode item).alone = checkArgument mode item := by
  rw [alone, List.filter_eq_self]
  intro v hv
  have hkind := kind_of_mem_checkArgument hv
  simp only [valueKinds, List.mem_cons, List.not_mem_nil, or_false] at hkind
  rcases hkind with hkind | hkind | hkind | hkind | hkind | hkind <;> rw [hkind] <;> rfl

theorem within_checkEntries (items : List Json) (position : Nat) :
    within [entryPlace i position] (checkEntries mode i items) =
      match items[position]? with
      | none => []
      | some item => under (entryPlace i position) (checkArgument mode item) := by
  have hentries := within_flatMap_zipIdx items [.key (argumentsKey i)]
    (fun entry => lieUnder_under (entryPlace i entry.2) (checkArgument mode entry.1)) position
  rw [checkEntries_root]
  refine hentries.trans ?_
  cases items[position]? <;> rfl

theorem alone_within_eq_nil {place : Path} {vs : Violations}
    (hapart : ∀ v ∈ vs, v.kind.comparesEntries = true ∨ ¬place <+: v.path) :
    (within [place] vs).alone = [] := by
  rw [alone, within, List.filter_filter, List.filter_eq_nil_iff]
  intro v hv
  rcases hapart v hv with hkind | hplace
  · simp [hkind]
  · simp [List.isPrefixOf_iff_prefix, hplace]

theorem not_entryPlace_prefix {position : Nat} {key : String} :
    ¬entryPlace i position <+: [.key key] := by
  intro hprefix
  have hlength := hprefix.length_le
  simp [entryPlace] at hlength

theorem path_of_mem_checkConstraint_arguments {v : Violation}
    (hv : v ∈ checkConstraint mode o (arguments i)) : v.path = [.key (argumentsKey i)] := by
  rw [checkConstraint_root] at hv
  split at hv
  next => simp [arguments, Constraint.optional] at hv
  next value _ =>
    obtain ⟨found, hfound, rfl⟩ := List.mem_map.1 hv
    have hpath : found.path = [] := by
      simp only [checkValue, arguments, Constraint.optional, List.flatMap_nil,
        List.append_nil] at hfound
      split at hfound
      next =>
        obtain rfl := List.mem_singleton.1 hfound
        rfl
      next => contradiction
    simp [Violation.under, hpath, arguments, Constraint.optional]

theorem apart_of_mem_slotConstraints {position : Nat} {v : Violation}
    (hv : v ∈ checkConstraints mode o [message i, arguments i, align i]) :
    ¬entryPlace i position <+: v.path := by
  obtain ⟨c, hc, hv⟩ := List.mem_flatMap.1 hv
  have hkey : [.key c.key] <+: v.path := lieUnder_checkConstraint mode o c v hv
  intro hprefix
  have hlist : [.key (argumentsKey i)] <+: v.path :=
    (List.prefix_append [_] [_]).trans hprefix
  have hsame := key_unique hlist hkey
  simp only [List.mem_cons, List.not_mem_nil, or_false] at hc
  rcases hc with rfl | rfl | rfl
  · exact messageKey_ne_argumentsKey i i hsame.symm
  · rw [path_of_mem_checkConstraint_arguments hv] at hprefix
    exact not_entryPlace_prefix hprefix
  · exact argumentsKey_ne_alignKey i i hsame

/-- Beside the entries, a slot reports at an entry only what compares it with others. -/
theorem alone_within_slotReport (position : Nat) :
    (within [entryPlace i position] (slotReport mode o i)).alone =
      match (entries i o)[position]? with
      | none => []
      | some item => under (entryPlace i position) (checkArgument mode item) := by
  have hconstraints : (within [entryPlace i position]
      (checkConstraints mode o [message i, arguments i, align i])).alone = [] :=
    alone_within_eq_nil fun v hv => .inr (apart_of_mem_slotConstraints hv)
  have hidle : (within [entryPlace i position] (checkIdle [] i o)).alone = [] := by
    apply alone_within_eq_nil
    intro v hv
    rcases place_of_mem_checkIdle hv with hpath | hpath <;>
      exact .inr (hpath ▸ not_entryPlace_prefix)
  have hmessage : ∀ text,
      (within [entryPlace i position] (checkMessage [] i o text)).alone = [] := by
    intro text
    apply alone_within_eq_nil
    intro v hv
    rcases place_of_mem_checkMessage hv with hpath | hpath | ⟨hkind, -⟩
    · exact .inr (hpath ▸ not_entryPlace_prefix)
    · exact .inr (hpath ▸ not_entryPlace_prefix)
    · exact .inl hkind
  have hentries : (within [entryPlace i position] (checkEntries mode i (entries i o))).alone =
      match (entries i o)[position]? with
      | none => []
      | some item => under (entryPlace i position) (checkArgument mode item) := by
    rw [within_checkEntries]
    split
    · rfl
    · rw [alone_under, alone_checkArgument]
  rw [slotReport, checkSlot, within_append, within_append, alone_append, alone_append,
    hconstraints, hentries, List.nil_append]
  cases (o.get? (messageKey i)).bind Json.string? with
  | none =>
      simp only
      rw [hidle, List.append_nil]
  | some text =>
      simp only
      by_cases hrules : mode.checksRules = true
      · rw [if_pos hrules, hmessage, List.append_nil]
      · rw [if_neg hrules]
        exact List.append_nil _

end Entries

/-! ## Documents -/

/-- The value under a key of a document, if it is an object that has the key. -/
def member? (document : Json) (key : String) : Option Json :=
  document.object?.bind fun o => o.get? key

/-- The entry of a list of arguments at a position of a document. -/
def itemAt? (document : Json) (i : Fin slotCount) (position : Nat) : Option Json :=
  ((member? document (argumentsKey i)).bind Json.list?).bind fun items => items[position]?

/-- The places of a slot in a document that lies at the path. -/
def slotPlaces (path : Path) (i : Fin slotCount) : List Path :=
  (keyPlaces (slotKeys i)).map (path ++ ·)

theorem within_reported {mode : Mode} {path : Path} {places : List Path} {vs : Violations} :
    within (places.map (path ++ ·)) (reported mode path vs) =
      reported mode path (within places vs) := by
  unfold reported
  split
  · rw [within_toErrors, within_under]
  · exact within_under

theorem alone_reported {mode : Mode} {path : Path} {vs : Violations} :
    (reported mode path vs).alone = reported mode path vs.alone := by
  unfold reported
  split
  · rw [alone_toErrors, alone_under]
  · exact alone_under

/-- The members of a document, none if it is no object. -/
def membersOf (document : Json) : Object := document.object?.getD []

theorem member?_eq (document : Json) (key : String) :
    member? document key = (membersOf document).get? key := by
  cases document <;> rfl

theorem itemAt?_eq (document : Json) (i : Fin slotCount) (position : Nat) :
    itemAt? document i position = (entries i (membersOf document))[position]? := by
  rw [itemAt?, member?_eq, entries]
  cases ((membersOf document).get? (argumentsKey i)).bind Json.list? <;> rfl

theorem within_checkDocument (c : Context) (document : Json) (i : Fin slotCount) :
    within (keyPlaces (slotKeys i)) (checkDocument c.atRoot document) =
      slotReport c.mode (membersOf document) i := by
  cases document with
  | object o => exact within_checkBlock c o i
  | null | bool | number | string | list =>
      rw [checkDocument]
      · rfl
      · intro o hobject
        contradiction

/-- What is reported within a slot, and the slot that is built, depend on the values
under its three keys alone; and what is reported at an argument, comparisons with
others apart, is the report of its entry. -/
theorem slots_independent (c : Context) (i : Fin slotCount) :
    (∀ first second : Json, (∀ key ∈ slotKeys i, member? first key = member? second key) →
      within (slotPlaces c.path i) (validate c first).violations =
        within (slotPlaces c.path i) (validate c second).violations ∧
      ∀ d e, (validate c first).definition = some d →
        (validate c second).definition = some e → d.slot? i.val = e.slot? i.val) ∧
    ∀ (document : Json) (position : Nat),
      (within [c.path ++ entryPlace i position] (validate c document).violations).alone =
        match itemAt? document i position with
        | none => []
        | some item => reported c.mode (c.path ++ entryPlace i position)
            (checkArgument c.mode item) := by
  refine ⟨fun first second hagree => ⟨?_, ?_⟩, fun document position => ?_⟩
  · simp only [member?_eq] at hagree
    rw [slotPlaces, violations_validate, violations_validate, within_reported, within_reported,
      within_checkDocument, within_checkDocument, slotReport_congr hagree]
  · intro d e hfirst hsecond
    simp only [member?_eq] at hagree
    obtain ⟨o, rfl, -⟩ := slots_of_accepted hfirst
    obtain ⟨p, rfl, -⟩ := slots_of_accepted hsecond
    rw [slot?_of_accepted hfirst, slot?_of_accepted hsecond]
    exact congrArg SlotOutcome.slot? (slotOutcome_congr hagree c.mode)
  -- The place of an entry lies within its slot, whose report is known.
  · have hplace : ∀ place ∈ [entryPlace i position],
        ∃ above ∈ keyPlaces (slotKeys i), above <+: place := by
      intro place hmem
      obtain rfl := List.mem_singleton.1 hmem
      refine ⟨[.key (argumentsKey i)], ?_, List.prefix_append [_] [_]⟩
      simp [keyPlaces, slotKeys]
    have hlocated : within [c.path ++ entryPlace i position] (validate c document).violations =
        reported c.mode c.path
          (within [entryPlace i position] (slotReport c.mode (membersOf document) i)) := by
      rw [← within_checkDocument c document i, within_within hplace, ← within_reported,
        violations_validate]
      rfl
    rw [hlocated, alone_reported, alone_within_slotReport, itemAt?_eq]
    cases (entries i (membersOf document))[position]? with
    | none => simp [reported, under, toErrors]
    | some item => simp only [reported, under_under]

/-- A slot with one bad argument, alone and in a document that is bad elsewhere; and a
good slot of two blocks that have nothing else in common. -/
theorem slots_independent_broken :
    let i : Fin slotCount := ⟨0, by decide⟩
    let c : Context := ⟨.tolerant, none, none, [.key "blocks", .index 3]⟩
    let first := Json.object [
      ("args0", .list [.bool true]), ("message0", .string "%1"), ("output", .null),
      ("type", .string "a")]
    let second := Json.object [
      ("args0", .list [.bool true]), ("message0", .string "%1"), ("message1", .null),
      ("nextStatement", .null), ("output", .bool false), ("unheard", .null)]
    let flag := Json.object [("name", .string "FLAG"), ("type", .string "field_checkbox")]
    let third := Json.object [
      ("args0", .list [flag]), ("message0", .string "%1 set"), ("output", .string "Boolean"),
      ("type", .string "is_set")]
    let fourth := Json.object [
      ("args0", .list [flag]), ("message0", .string "%1 set"), ("message1", .string "at once"),
      ("nextStatement", .null), ("type", .string "set")]
    let slot : Slot := ⟨i, "%1 set", [.field "FLAG" none (.checkbox none)], none⟩
    (∀ key ∈ slotKeys i, member? first key = member? second key) ∧
      within (slotPlaces c.path i) (validate c first).violations =
        within (slotPlaces c.path i) (validate c second).violations ∧
      (within (slotPlaces c.path i) (validate c second).violations).map Violation.path =
        [[.key "blocks", .index 3, .key "args0", .index 0]] ∧
      (∀ key ∈ slotKeys i, member? third key = member? fourth key) ∧
      ∃ d e, (validate c third).definition = some d ∧ (validate c fourth).definition = some e ∧
        d.slots.length ≠ e.slots.length ∧ d.slot? i.val = some slot ∧
        d.slot? i.val = e.slot? i.val := by
  intro i c first second flag third fourth slot
  have hagree : ∀ key ∈ slotKeys i, member? first key = member? second key := by
    decide
  have hsame := ((slots_independent c i).1 first second hagree).1
  have halso : ∀ key ∈ slotKeys i, member? third key = member? fourth key := by
    decide
  let d : Definition :=
    ⟨"is_set", .value (.single "Boolean"), [slot], none, none, none, none, none, none, none⟩
  let e : Definition :=
    ⟨"set", .statement none (some .any), [slot, ⟨⟨1, by decide⟩, "at once", [], none⟩],
      none, none, none, none, none, none, none⟩
  have hthird : (validate c third).definition = some d := by decide +kernel
  have hfourth : (validate c fourth).definition = some e := by decide +kernel
  have hslot := ((slots_independent c i).1 third fourth halso).2 d e hthird hfourth
  refine ⟨hagree, hsame, ?_, halso, d, e, hthird, hfourth, by decide, rfl, hslot⟩
  rw [← hsame]
  decide +kernel

end Validation

end EditorBlocks
