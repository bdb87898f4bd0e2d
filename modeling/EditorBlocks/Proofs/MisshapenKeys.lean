import EditorBlocks.Proofs.Independence
import EditorBlocks.Proofs.ReportOrder

/-!
# Keys of a slot with values of the wrong shape

A key whose value has the wrong shape is reported as such.  The checks of the slot
then go on as though the key were not there: without a message the arguments and
the alignment have no effect, and without arguments no placeholder of the message
is in range.  What is reported for such a slot can therefore be told from its
values alone.
-/

namespace EditorBlocks.Validation

open NormalForm Schema Violations

/-! ## Marks of a document -/

theorem marks_reported (mode : Mode) (path : Path) (vs : Violations) :
    (reported mode path vs).marks = vs.marks.map fun (place, kind) => (path ++ place, kind) := by
  unfold reported
  split
  · simp [marks, toErrors, under, Violation.mark, Violation.toError, Violation.under]
  · simp [marks, under, Violation.mark, Violation.under]

theorem mem_marks_within {place : Path} {kind : Violation.Kind} {vs : Violations} :
    (place, kind) ∈ (within [place] vs).marks ↔ (place, kind) ∈ vs.marks := by
  simp only [marks, within, List.mem_map, List.mem_filter]
  constructor
  · rintro ⟨v, ⟨hv, -⟩, hmark⟩
    exact ⟨v, hv, hmark⟩
  · rintro ⟨v, hv, hmark⟩
    have hpath : v.path = place := congrArg Prod.fst hmark
    refine ⟨v, ⟨hv, ?_⟩, hmark⟩
    simp [hpath, List.isPrefixOf_iff_prefix]

/-- What a document is told at a key of a slot comes from the report of the slot. -/
theorem within_validate_slotKey (c : Context) (document : Json) {i : Fin slotCount}
    {key : String} (hkey : key ∈ slotKeys i) :
    within [c.path ++ [.key key]] (validate c document).violations =
      reported c.mode c.path
        (within (keyPlaces [key]) (slotReport c.mode (membersOf document) i)) := by
  have hlower : ∀ place ∈ keyPlaces [key], ∃ above ∈ keyPlaces (slotKeys i), above <+: place := by
    intro place hplace
    refine ⟨place, ?_, List.prefix_rfl⟩
    rw [keyPlaces, List.map_singleton, List.mem_singleton] at hplace
    exact hplace ▸ List.mem_map_of_mem hkey
  rw [← within_checkDocument c document i, within_within hlower, ← within_reported,
    violations_validate]
  rfl

/-- A mark at a key of a slot itself comes from the report of the slot. -/
theorem mem_marks_validate_iff (c : Context) (document : Json) {i : Fin slotCount}
    {key : String} (hkey : key ∈ slotKeys i) {kind : Violation.Kind} :
    (c.path ++ [.key key], kind) ∈ (validate c document).violations.marks ↔
      ([.key key], kind) ∈ (slotReport c.mode (membersOf document) i).marks := by
  rw [← mem_marks_within, within_validate_slotKey c document hkey, marks_reported,
    ← mem_marks_within]
  simp [keyPlaces]

section Slots

variable {mode : Mode} {o : Object} {i : Fin slotCount}

theorem checkConstraint_of_misshapen {c : Constraint} {value : Json}
    (hvalue : o.get? c.key = some value) (hshape : c.shape.admits value = false) :
    (checkConstraint mode o c).marks = [([.key c.key], .structuralMismatch)] := by
  simp only [checkConstraint_root, hvalue, checkValue, hshape, Bool.not_false, if_true]
  rfl

theorem within_eq_nil_of_elsewhere {key : String} {vs : Violations}
    (helsewhere : ∀ v ∈ vs, ∃ other, other ≠ key ∧ [.key other] <+: v.path) :
    within (keyPlaces [key]) vs = [] := by
  rw [within, List.filter_eq_nil_iff]
  intro v hv hwithin
  obtain ⟨other, hne, hprefix⟩ := helsewhere v hv
  exact hne (List.mem_singleton.1 ((isWithin_keyPlaces hprefix).1 hwithin))

theorem elsewhere_of_mem_checkIdle {v : Violation} (hv : v ∈ checkIdle [] i o) :
    ∃ other, other ≠ messageKey i ∧ [.key other] <+: v.path := by
  rcases place_of_mem_checkIdle hv with hpath | hpath
  · exact ⟨argumentsKey i, (messageKey_ne_argumentsKey i i).symm, by rw [hpath]⟩
  · exact ⟨alignKey i, (messageKey_ne_alignKey i i).symm, by rw [hpath]⟩

/-! ## A message that is no string -/

theorem checkSlot_of_misshapen_message {value : Json}
    (hvalue : o.get? (messageKey i) = some value) (hshape : value.isString = false) :
    checkSlot mode o i = checkEntries mode i (entries i o) ++ checkIdle [] i o := by
  have hnone : value.string? = none := by
    cases value with
    | string s => contradiction
    | _ => rfl
  simp only [checkSlot, hvalue, Option.bind_some, hnone]

theorem filter_messageKey (i : Fin slotCount) :
    [message i, arguments i, align i].filter (fun c => [messageKey i].contains c.key) =
      [message i] := by
  revert i
  decide

theorem marks_at_misshapen_message {value : Json}
    (hvalue : o.get? (messageKey i) = some value) (hshape : value.isString = false) :
    (within (keyPlaces [messageKey i]) (slotReport mode o i)).marks =
      [([.key (messageKey i)], .structuralMismatch)] := by
  have hconstraint : (checkConstraint mode o (message i)).marks =
      [([.key (messageKey i)], .structuralMismatch)] :=
    checkConstraint_of_misshapen hvalue hshape
  have hslot : within (keyPlaces [messageKey i]) (checkSlot mode o i) = [] := by
    apply within_eq_nil_of_elsewhere
    intro v hv
    rw [checkSlot_of_misshapen_message hvalue hshape, List.mem_append] at hv
    rcases hv with hentry | hidle
    · exact ⟨argumentsKey i, (messageKey_ne_argumentsKey i i).symm,
        place_of_mem_checkEntries hentry⟩
    · exact elsewhere_of_mem_checkIdle hidle
  rw [slotReport, within_append, within_checkConstraints, filter_messageKey, hslot,
    List.append_nil, checkConstraints, List.flatMap_singleton, hconstraint]

/-- No check of a value tells that a setting is idle. -/
theorem not_mem_marks_withoutEffect {vs : Violations}
    (hkinds : ∀ v ∈ vs, v.kind ∈ .unknownField :: .missingField :: valueKinds) (place : Path) :
    (place, Violation.Kind.withoutEffect) ∉ vs.marks := by
  intro hmem
  obtain ⟨v, hv, hmark⟩ := List.mem_map.1 hmem
  have hkind : v.kind = .withoutEffect := congrArg Prod.snd hmark
  have hvalue := hkinds v hv
  rw [hkind] at hvalue
  revert hvalue
  decide

/-- The values under the keys of a slot are checked one by one. -/
theorem kind_of_mem_slotConstraints {v : Violation}
    (hv : v ∈ checkConstraints mode o [message i, arguments i, align i]) :
    v.kind ∈ .unknownField :: .missingField :: valueKinds := by
  obtain ⟨c, -, hv⟩ := List.mem_flatMap.1 hv
  exact List.mem_cons_of_mem _ (kind_of_mem_checkConstraint hv)

/-- Without a string as its message a slot tells of idle settings, as without any. -/
theorem mem_marks_withoutEffect_iff {value : Json}
    (hvalue : o.get? (messageKey i) = some value) (hshape : value.isString = false)
    {place : Path} :
    (place, Violation.Kind.withoutEffect) ∈ (slotReport mode o i).marks ↔
      (place, Violation.Kind.withoutEffect) ∈ (checkIdle [] i o).marks := by
  have hconstraints : ∀ v ∈ checkConstraints mode o [message i, arguments i, align i],
      v.kind ∈ .unknownField :: .missingField :: valueKinds := fun v hv =>
    kind_of_mem_slotConstraints hv
  have hentries : ∀ v ∈ checkEntries mode i (entries i o),
      v.kind ∈ .unknownField :: .missingField :: valueKinds := by
    intro v hv
    rw [checkEntries_root] at hv
    obtain ⟨entry, -, hv⟩ := List.mem_flatMap.1 hv
    obtain ⟨found, hfound, rfl⟩ := List.mem_map.1 hv
    have hkind := kind_of_mem_checkArgument hfound
    exact hkind
  rw [slotReport, checkSlot_of_misshapen_message hvalue hshape]
  simp only [marks_append, List.mem_append, not_mem_marks_withoutEffect hconstraints,
    not_mem_marks_withoutEffect hentries, false_or]

/-! ## Arguments that are no list -/

theorem entries_of_misshapen_arguments {value : Json}
    (hvalue : o.get? (argumentsKey i) = some value) (hshape : value.isList = false) :
    entries i o = [] := by
  rw [entries, hvalue]
  cases value with
  | list items => contradiction
  | _ => rfl

theorem filter_argumentsKey (i : Fin slotCount) :
    [message i, arguments i, align i].filter (fun c => [argumentsKey i].contains c.key) =
      [arguments i] := by
  revert i
  decide

/-- Where there are no arguments, every placeholder is out of range. -/
theorem marks_checkReferences_zero (before : List Nat) (refs : List (Nat × String)) :
    (checkReferences i 0 before refs).marks =
      refs.map fun (n, _) => ([.key (messageKey i)], .placeholderOutOfRange n) := by
  induction refs generalizing before with
  | nil => rfl
  | cons reference rest ih =>
      obtain ⟨n, written⟩ := reference
      have hrange : n = 0 ∨ 0 < n := Nat.eq_zero_or_pos n
      rw [checkReferences, marks_append, ih, checkReference, if_pos hrange]
      rfl

/-- Without arguments a message is told of its placeholders and of its alignment. -/
theorem checkMessage_of_no_entries {text : String} (hnone : entries i o = []) :
    checkMessage [] i o text =
      checkReferences i 0 [] (references (Template.tokenize text)) ++
        checkAlign [] i o (Template.tokenize text) [] := by
  simp only [checkMessage, checkPlaceholders_eq_references, hnone, List.map_nil,
    List.length_nil, List.zipIdx_nil, List.flatMap_nil, List.append_nil]
  rfl

theorem path_of_mem_checkAlign {tokens : List Template.Token}
    {kinds : List (Option ArgumentKind)} {v : Violation} (hv : v ∈ checkAlign [] i o tokens kinds) :
    v.path = [.key (alignKey i)] := by
  unfold checkAlign at hv
  split at hv
  · exact List.mem_singleton.1 hv ▸ rfl
  · contradiction

/-- What a slot is told when its arguments are no list lies elsewhere. -/
theorem path_of_mem_checkSlot {value : Json} (hvalue : o.get? (argumentsKey i) = some value)
    (hshape : value.isList = false) {v : Violation} (hv : v ∈ checkSlot mode o i) :
    v.path = [.key (messageKey i)] ∨ v.path = [.key (alignKey i)] := by
  have hnone : entries i o = [] := entries_of_misshapen_arguments hvalue hshape
  have hunshaped : shaped? o (arguments i) = none := by
    rw [shaped?, show o.get? (arguments i).key = some value from hvalue, Option.filter_some]
    exact if_neg (Bool.eq_false_iff.1 hshape)
  rw [checkSlot, hnone, checkEntries, List.zipIdx_nil, List.flatMap_nil, List.nil_append] at hv
  split at hv
  next =>
    rw [checkIdle, List.flatMap_cons, hunshaped, List.flatMap_singleton] at hv
    simp only [Option.isSome_none, Bool.false_eq_true, if_false, List.nil_append] at hv
    split at hv
    next => exact .inr (List.mem_singleton.1 hv ▸ rfl)
    next => contradiction
  next text _ =>
    split at hv
    next =>
      rw [checkMessage_of_no_entries hnone, List.mem_append] at hv
      rcases hv with hreference | halign
      · exact .inl (path_of_mem_checkReferences hreference)
      · exact .inr (path_of_mem_checkAlign halign)
    next => contradiction

theorem marks_at_misshapen_arguments {value : Json}
    (hvalue : o.get? (argumentsKey i) = some value) (hshape : value.isList = false) :
    (within (keyPlaces [argumentsKey i]) (slotReport mode o i)).marks =
      [([.key (argumentsKey i)], .structuralMismatch)] := by
  have hconstraint : (checkConstraint mode o (arguments i)).marks =
      [([.key (argumentsKey i)], .structuralMismatch)] :=
    checkConstraint_of_misshapen hvalue hshape
  have hslot : within (keyPlaces [argumentsKey i]) (checkSlot mode o i) = [] := by
    apply within_eq_nil_of_elsewhere
    intro v hv
    rcases path_of_mem_checkSlot hvalue hshape hv with hpath | hpath
    · exact ⟨messageKey i, messageKey_ne_argumentsKey i i, by rw [hpath]⟩
    · exact ⟨alignKey i, (argumentsKey_ne_alignKey i i).symm, by rw [hpath]⟩
  rw [slotReport, within_append, within_checkConstraints, filter_argumentsKey, hslot,
    List.append_nil, checkConstraints, List.flatMap_singleton, hconstraint]

theorem within_message_of_misshapen_arguments {value : Json} {text : String}
    (hvalue : o.get? (argumentsKey i) = some value) (hshape : value.isList = false)
    (htext : o.get? (messageKey i) = some (.string text)) :
    within (keyPlaces [messageKey i]) (slotReport mode o i) =
      if mode.checksRules then checkReferences i 0 [] (references (Template.tokenize text))
      else [] := by
  have hconstraint : checkConstraint mode o (message i) = [] := by
    rw [checkConstraint_root, show o.get? (message i).key = some (.string text) from htext]
    rfl
  have hnone : entries i o = [] := entries_of_misshapen_arguments hvalue hshape
  have hreferences : LieUnder [.key (messageKey i)]
      (checkReferences i 0 [] (references (Template.tokenize text))) := by
    intro v hv
    rw [path_of_mem_checkReferences hv]
  have halign : within (keyPlaces [messageKey i])
      (checkAlign [] i o (Template.tokenize text) []) = [] := by
    apply within_eq_nil_of_elsewhere
    intro v hv
    exact ⟨alignKey i, (messageKey_ne_alignKey i i).symm, by rw [path_of_mem_checkAlign hv]⟩
  rw [slotReport, within_append, within_checkConstraints, filter_messageKey, checkConstraints,
    List.flatMap_singleton, hconstraint, List.nil_append, checkSlot, hnone, checkEntries,
    List.zipIdx_nil, List.flatMap_nil, List.nil_append, htext]
  change within _ (if mode.checksRules then checkMessage [] i o text else []) = _
  by_cases hrules : mode.checksRules = true
  · rw [if_pos hrules, if_pos hrules, checkMessage_of_no_entries hnone, within_append, halign,
      List.append_nil, within_keyPlaces_eq_self List.mem_cons_self hreferences]
  · rw [if_neg hrules, if_neg hrules]
    rfl

/-- Without arguments an alignment has a dummy input to align only if the message alone
implies one. -/
theorem mem_marks_align_of_misshapen_arguments {value : Json} {text : String}
    (hvalue : o.get? (argumentsKey i) = some value) (hshape : value.isList = false)
    (htext : o.get? (messageKey i) = some (.string text)) :
    ([.key (alignKey i)], Violation.Kind.withoutEffect) ∈ (slotReport mode o i).marks ↔
      mode.checksRules = true ∧ (o.get? (alignKey i)).any Json.isString ∧
        Template.impliesDummy (Template.tokenize text) (isInputAt []) = false := by
  have hnone : entries i o = [] := entries_of_misshapen_arguments hvalue hshape
  have hconstraints : ∀ v ∈ checkConstraints mode o [message i, arguments i, align i],
      v.kind ∈ .unknownField :: .missingField :: valueKinds := fun v hv =>
    kind_of_mem_slotConstraints hv
  have hslot : checkSlot mode o i =
      if mode.checksRules then checkMessage [] i o text else [] := by
    rw [checkSlot, hnone, checkEntries, List.zipIdx_nil, List.flatMap_nil, List.nil_append, htext]
    rfl
  rw [slotReport, marks_append, List.mem_append, hslot]
  simp only [not_mem_marks_withoutEffect hconstraints, false_or]
  by_cases hrules : mode.checksRules = true
  · rw [if_pos hrules, checkMessage_of_no_entries hnone, marks_append, marks_checkAlign,
      marks_checkReferences_zero]
    simp [hrules]
  · rw [if_neg hrules]
    exact iff_of_false List.not_mem_nil fun h => hrules h.1

end Slots

/-! ## Documents -/

/-- A message that is no string, and arguments that are no list, are reported as
misshapen and as nothing else.  But the other keys of the slot are told what they
would be told without them: every list of arguments and every alignment that they
have no effect without the message, every placeholder that it is out of range, and
an alignment that it has no effect where only an argument could give it one. -/
theorem misshapen_keys_count_as_absent (c : Context) (document : Json) (i : Fin slotCount) :
    let place := fun key : String => c.path ++ [.key key]
    let found := (validate c document).violations
    (∀ value, member? document (messageKey i) = some value → value.isString = false →
      (within [place (messageKey i)] found).marks =
          [(place (messageKey i), .structuralMismatch)] ∧
        ((place (argumentsKey i), .withoutEffect) ∈ found.marks ↔
          (member? document (argumentsKey i)).any Json.isList) ∧
        ((place (alignKey i), .withoutEffect) ∈ found.marks ↔
          (member? document (alignKey i)).any Json.isString)) ∧
    ∀ value, member? document (argumentsKey i) = some value → value.isList = false →
      (within [place (argumentsKey i)] found).marks =
          [(place (argumentsKey i), .structuralMismatch)] ∧
        ∀ text, member? document (messageKey i) = some (.string text) →
          ((within [place (messageKey i)] found).marks =
            if c.mode.checksRules then
              (references (Template.tokenize text)).map fun (n, _) =>
                (place (messageKey i), .placeholderOutOfRange n)
            else []) ∧
          ((place (alignKey i), .withoutEffect) ∈ found.marks ↔
            c.mode.checksRules = true ∧ (member? document (alignKey i)).any Json.isString ∧
              Template.impliesDummy (Template.tokenize text) (isInputAt []) = false) := by
  intro place found
  have hmessage : messageKey i ∈ slotKeys i := by simp [slotKeys]
  have harguments : argumentsKey i ∈ slotKeys i := by simp [slotKeys]
  have halign : alignKey i ∈ slotKeys i := by simp [slotKeys]
  simp only [member?_eq]
  refine ⟨fun value hvalue hshape => ⟨?_, ?_, ?_⟩, fun value hvalue hshape => ⟨?_, ?_⟩⟩
  · rw [within_validate_slotKey c document hmessage, marks_reported,
      marks_at_misshapen_message hvalue hshape]
    rfl
  · rw [mem_marks_validate_iff c document harguments,
      mem_marks_withoutEffect_iff hvalue hshape, marks_checkIdle]
    simp [argumentsKey_ne_alignKey i i]
  · rw [mem_marks_validate_iff c document halign,
      mem_marks_withoutEffect_iff hvalue hshape, marks_checkIdle]
    simp [(argumentsKey_ne_alignKey i i).symm]
  · rw [within_validate_slotKey c document harguments, marks_reported,
      marks_at_misshapen_arguments hvalue hshape]
    rfl
  · intro text htext
    constructor
    · rw [within_validate_slotKey c document hmessage, marks_reported,
        within_message_of_misshapen_arguments hvalue hshape htext]
      by_cases hrules : c.mode.checksRules = true
      · rw [if_pos hrules, if_pos hrules, marks_checkReferences_zero, List.map_map]
        rfl
      · rw [if_neg hrules, if_neg hrules]
        rfl
    · rw [mem_marks_validate_iff c document halign,
        mem_marks_align_of_misshapen_arguments hvalue hshape htext]

/-- A slot whose message is no string, and one whose arguments are no list. -/
def misshapenDocument : Json :=
  .object [
    ("args0", .list []),
    ("args1", .ofNat 5),
    ("lastDummyAlign1", .string "LEFT"),
    ("message0", .ofNat 5),
    ("message1", .string "%1"),
    ("type", .string "a")]

theorem misshapen_keys_count_as_absent_twice :
    let c : Context := ⟨.strict, none, none, []⟩
    let found := (validate c misshapenDocument).violations
    (within [[.key "message0"]] found).marks = [([.key "message0"], .structuralMismatch)] ∧
      ([.key "args0"], .withoutEffect) ∈ found.marks ∧
      (within [[.key "args1"]] found).marks = [([.key "args1"], .structuralMismatch)] ∧
      (within [[.key "message1"]] found).marks =
        [([.key "message1"], .placeholderOutOfRange 1)] ∧
      ([.key "lastDummyAlign1"], .withoutEffect) ∈ found.marks := by
  intro c found
  let first : Fin slotCount := ⟨0, by decide⟩
  let second : Fin slotCount := ⟨1, by decide⟩
  have hkeys : messageKey first = "message0" ∧ argumentsKey first = "args0" ∧
      messageKey second = "message1" ∧ argumentsKey second = "args1" ∧
      alignKey second = "lastDummyAlign1" := by
    decide
  have hreferences : references (Template.tokenize "%1") = [(1, "1")] := by
    decide +kernel
  have hidle : (member? misshapenDocument (argumentsKey first)).any Json.isList = true := by
    decide
  obtain ⟨hmessage, harguments, -⟩ :=
    (misshapen_keys_count_as_absent c misshapenDocument first).1 (.ofNat 5) (by decide) (by decide)
  obtain ⟨hlist, htext⟩ :=
    (misshapen_keys_count_as_absent c misshapenDocument second).2 (.ofNat 5) (by decide) (by decide)
  obtain ⟨hplaceholder, halign⟩ := htext "%1" (by decide)
  have hwithout := harguments.2 hidle
  have hunaligned := halign.2 ⟨rfl, by decide, by decide +kernel⟩
  rw [hreferences] at hplaceholder
  simp only [hkeys] at hmessage hwithout hlist hplaceholder hunaligned
  exact ⟨hmessage, hwithout, hlist, hplaceholder, hunaligned⟩

/-- So neither of the two keys is reported by itself alone. -/
theorem misshapen_keys_not_reported_alone :
    (¬∀ (c : Context) (document value : Json) (i : Fin slotCount),
      member? document (messageKey i) = some value → value.isString = false →
        ∀ key ∈ [argumentsKey i, alignKey i],
          (c.path ++ [.key key], .withoutEffect) ∉ (validate c document).violations.marks) ∧
    ¬∀ (c : Context) (document value : Json) (i : Fin slotCount) (n : Nat),
      member? document (argumentsKey i) = some value → value.isList = false →
        (c.path ++ [.key (messageKey i)], .placeholderOutOfRange n) ∉
          (validate c document).violations.marks := by
  constructor
  · intro hquiet
    exact hquiet ⟨.strict, none, none, []⟩ misshapenDocument (.ofNat 5) ⟨0, by decide⟩
      (by decide) (by decide) "args0" (by decide) (by decide +kernel)
  · intro hquiet
    exact hquiet ⟨.strict, none, none, []⟩ misshapenDocument (.ofNat 5) ⟨1, by decide⟩ 1
      (by decide) (by decide) (by decide +kernel)

end EditorBlocks.Validation
