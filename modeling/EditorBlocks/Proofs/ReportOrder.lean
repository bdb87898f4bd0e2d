import EditorBlocks.Proofs.Independence
import EditorBlocks.Proofs.KeptRules
import EditorBlocks.Proofs.OrderedReports

/-!
# The order of a report

A report has a fixed order: what concerns the block as a whole, its known keys in
the order of the table, its unknown keys, the names that it refers to, and then
one slot after the other.  Within each part the violations follow the order of
the document, by key, by position or by the words of the message.
-/

namespace EditorBlocks.Validation

open Schema Violations

/-! ## The parts of a report -/

/-- The keys of a block in the order of the table. -/
def declaredKeys : List String :=
  ["type"] ++ slots.map messageKey ++ slots.map argumentsKey ++ slots.map alignKey ++
    ["inputsInline", "helpUrl", "style", "colour", "tooltip", "extensions", "mutator", "output",
      "previousStatement", "nextStatement"]

/-- A violation of the value under a key, or of an entry of the list there. -/
def ConcernsKey (key : String) (v : Violation) : Prop :=
  v.path = [.key key] ∧
      v.kind ∈ [.missingField, .structuralMismatch, .outOfRange, .notListed] ∨
    (∃ position, v.path = [.key key, .index position]) ∧ v.kind = .repeatedEntry

/-- A violation of the entry at a position by itself. -/
def ConcernsEntry (i : Fin slotCount) (position : Nat) (v : Violation) : Prop :=
  entryPlace i position <+: v.path ∧ v.kind ∈ .unknownField :: .missingField :: valueKinds

def UnknownKey (o : Object) (key : String) (kind : Violation.Kind) : Prop :=
  o.has key = true ∧ key ∉ declaredKeys ∧ kind = .unknownField

def UnregisteredAt (registry : Option Registry) (names : List String) (position : Nat)
    (kind : Violation.Kind) : Prop :=
  (∃ name, names[position]? = some name ∧ Registry.permits registry name = false) ∧
    kind = .notListed

def RepeatedName (names : List (Option String)) (position : Nat) (kind : Violation.Kind) :
    Prop :=
  (∃ name first, first < position ∧ names[first]? = some (some name) ∧
    names[position]? = some (some name)) ∧ kind = .duplicateName

/-- The token refers to none of the arguments, or a second time to one of them. -/
def Misreference (count : Nat) (tokens : List Template.Token) (position : Nat)
    (kind : Violation.Kind) : Prop :=
  ∃ n written, tokens[position]?.bind reference? = some (n, written) ∧
    ((n = 0 ∨ count < n) ∧ kind = .placeholderOutOfRange n ∨
      (1 ≤ n ∧ n ≤ count) ∧
        ((references (tokens.take position)).map Prod.fst).count n = 1 ∧
        kind = .duplicatePlaceholder n)

def Unreferenced (count : Nat) (tokens : List Template.Token) (position : Nat)
    (kind : Violation.Kind) : Prop :=
  (position < count ∧ position + 1 ∉ (references tokens).map Prod.fst) ∧
    kind = .unreferencedArgument (position + 1)

/-- What a message and the arguments of its slot are told, in order. -/
structure MessageReport where
  names : Violations
  references : Violations
  unreferenced : Violations
  align : Violations

namespace MessageReport

def inOrder (r : MessageReport) : Violations :=
  r.names ++ r.references ++ r.unreferenced ++ r.align

structure Describes (r : MessageReport) (o : Object) (i : Fin slotCount) (message : String) :
    Prop where
  names : ReportedInOrder (RepeatedName ((entries i o).map argumentName?))
    (fun position => entryPlace i position ++ [.key "name"]) r.names
  references : ReportedInOrder (Misreference (entries i o).length (Template.tokenize message))
    (fun _ => [.key (messageKey i)]) r.references
  unreferenced : ReportedInOrder (Unreferenced (entries i o).length (Template.tokenize message))
    (entryPlace i) r.unreferenced
  align : r.align.marks =
    if (o.get? (alignKey i)).any Json.isString ∧
        Template.impliesDummy (Template.tokenize message)
          (isInputAt ((entries i o).map argumentKind?)) = false then
      [([.key (alignKey i)], .withoutEffect)]
    else []

end MessageReport

/-- The report of a slot: its entries, and then what its message has to agree
with, or its idle settings where it has no message. -/
inductive SlotInOrder (mode : Mode) (o : Object) (i : Fin slotCount) : Violations → Prop
  | withoutMessage {own idle : Violations}
      (hmessage : (o.get? (messageKey i)).bind Json.string? = none)
      (hown : GroupedBy (ConcernsEntry i) (List.range (entries i o).length) own)
      (hidle : idle.marks =
        (if (o.get? (argumentsKey i)).any Json.isList then
          [([.key (argumentsKey i)], .withoutEffect)] else []) ++
        (if (o.get? (alignKey i)).any Json.isString then
          [([.key (alignKey i)], .withoutEffect)] else [])) :
      SlotInOrder mode o i (own ++ idle)
  | withMessage {own : Violations} {message : String} (r : MessageReport)
      (hmessage : (o.get? (messageKey i)).bind Json.string? = some message)
      (hown : GroupedBy (ConcernsEntry i) (List.range (entries i o).length) own)
      (hrules : mode.checksRules = true) (hdescribes : r.Describes o i message) :
      SlotInOrder mode o i (own ++ r.inOrder)
  | withoutRules {own : Violations} {message : String}
      (hmessage : (o.get? (messageKey i)).bind Json.string? = some message)
      (hown : GroupedBy (ConcernsEntry i) (List.range (entries i o).length) own)
      (hrules : mode.checksRules = false) : SlotInOrder mode o i own

/-- What a block is told, in order. -/
structure BlockReport where
  variant : Violations
  declared : Violations
  unknown : Violations
  colours : Violations
  extensions : Violations
  mutator : Violations
  slot : Fin slotCount → Violations

namespace BlockReport

def inOrder (r : BlockReport) : Violations :=
  r.variant ++ r.declared ++ r.unknown ++ r.colours ++ r.extensions ++ r.mutator ++
    (List.finRange slotCount).flatMap r.slot

structure Describes (r : BlockReport) (c : Context) (o : Object) : Prop where
  variant : r.variant.marks =
    if o.has "output" ∧ (o.has "previousStatement" ∨ o.has "nextStatement") then
      [([], .exclusiveFields)]
    else []
  declared : GroupedBy ConcernsKey declaredKeys r.declared
  unknown : ReportedInOrder (UnknownKey o) (fun key => [.key key]) r.unknown
  colours : r.colours.marks =
    if c.mode.checksRules ∧ (o.get? "style").any Json.isString ∧
        (o.get? "colour").any (fun value => value.isString || value.isNumber) then
      [([], .exclusiveFields)]
    else []
  extensions : ReportedInOrder
    (UnregisteredAt c.extensions (((o.get? "extensions").bind Json.strings?).getD []))
    (fun position => [.key "extensions", .index position]) r.extensions
  mutator : r.mutator.marks =
    if ((o.get? "mutator").bind Json.string?).all (Registry.permits c.mutators) then []
    else [([.key "mutator"], .notListed)]
  slot : ∀ i, SlotInOrder c.mode o i (r.slot i)

end BlockReport

/-! ## The checks of a block -/

theorem marks_violation_if {p : Prop} [Decidable p] (f : Finding) (path : Path) :
    marks (if p then [f.violation path] else []) = if p then [(path, f.kind)] else [] := by
  split
  · rfl
  · rfl

section Blocks

variable {o : Object}

theorem map_key_rootConstraints (o : Object) :
    (rootConstraints o).map Constraint.key = declaredKeys := by
  unfold rootConstraints
  split
  · decide
  · decide

theorem isRootKey_eq_true_iff {key : String} : isRootKey key = true ↔ key ∈ declaredKeys := by
  have hkeys : root.map Constraint.key = declaredKeys := by decide
  rw [← hkeys]
  simp [isRootKey]

theorem marks_checkVariant (o : Object) :
    (checkVariant [] o).marks =
      if o.has "output" ∧ (o.has "previousStatement" ∨ o.has "nextStatement") then
        [([], .exclusiveFields)]
      else [] := by
  rw [checkVariant, checkExclusive, hasValueKey_eq, hasStatementKey_eq, marks_violation_if]
  simp only [Bool.and_eq_true, Bool.or_eq_true, Finding.kind]

theorem groupedBy_checkConstraints (mode : Mode) (o : Object) :
    GroupedBy ConcernsKey declaredKeys (checkConstraints mode o (rootConstraints o)) := by
  have hshape : ∀ c ∈ rootConstraints o, c.shape ≠ .options := by
    unfold rootConstraints
    split
    · decide
    · decide
  rw [← map_key_rootConstraints o]
  refine groupedBy_flatMap Constraint.key fun c hc v hv => ?_
  rcases report_of_mem_checkConstraint hv with hkey | ⟨hentry, hrepeated | ⟨hoptions, -⟩⟩
  · exact .inl hkey
  · exact .inr ⟨hentry, hrepeated⟩
  · exact absurd hoptions (hshape c hc)

theorem reportedInOrder_checkUnknownKeys (hasc : o.Ascending) :
    ReportedInOrder (UnknownKey o) (fun key => [.key key]) (checkUnknownKeys [] isRootKey o) := by
  rw [checkUnknownKeys, List.map_eq_flatMap]
  refine reportedInOrder_flatMap id (fun _ => some .unknownField) ?_ ?_ ?_
  · rw [List.map_id]
    exact hasc.sublist List.filter_sublist
  · exact fun _ _ => rfl
  · intro key kind
    have hhas : o.has key = true ↔ key ∈ o.keys := by
      rw [Object.has, Option.isSome_iff_ne_none, ne_eq, Object.get?_eq_none_iff, not_not]
    simp only [UnknownKey, hhas, ← isRootKey_eq_true_iff, id_eq, List.mem_filter,
      Bool.not_eq_true', Bool.not_eq_true, Option.some.injEq]
    constructor
    · rintro ⟨hkey, hunknown, rfl⟩
      exact ⟨key, ⟨hkey, hunknown⟩, rfl, rfl⟩
    · rintro ⟨_, ⟨hkey, hunknown⟩, rfl, rfl⟩
      exact ⟨hkey, hunknown, rfl⟩

theorem marks_checkColours (mode : Mode) (o : Object) :
    (checkColours mode o).marks =
      if mode.checksRules ∧ (o.get? "style").any Json.isString ∧
          (o.get? "colour").any (fun value => value.isString || value.isNumber) then
        [([], .exclusiveFields)]
      else [] := by
  have hstyle : (rootValue? o "style").isSome = (o.get? "style").any Json.isString := by
    have hconstraint : rootConstraint? "style" = some (.optional "style" .string) := by decide
    rw [rootValue?, hconstraint, Option.bind_some, shaped?, Option.isSome_filter]
    rfl
  have hcolour : (rootValue? o "colour").isSome =
      (o.get? "colour").any fun value => value.isString || value.isNumber := by
    have hconstraint :
        rootConstraint? "colour" = some (.optional "colour" .colour [.hueInRange]) := by
      decide
    rw [rootValue?, hconstraint, Option.bind_some, shaped?, Option.isSome_filter]
    rfl
  rw [checkColours, hstyle, hcolour, marks_violation_if]
  simp only [Bool.and_eq_true, and_assoc, Finding.kind]

/-- Asking for the shape first changes nothing where only that shape is read. -/
theorem rootValue?_bind {α : Type} {key : String} {c : Constraint} {read : Json → Option α}
    (hconstraint : rootConstraint? key = some c) (hkey : c.key = key)
    (hread : ∀ value, (read value).isSome = true → c.shape.admits value = true) (o : Object) :
    (rootValue? o key).bind read = (o.get? key).bind read := by
  rw [rootValue?, hconstraint, Option.bind_some, shaped?, hkey]
  cases hvalue : o.get? key with
  | none => rfl
  | some value =>
      by_cases hshape : c.shape.admits value = true
      · simp [Option.filter, hshape]
      · have hnone : read value = none := by
          rw [← Option.not_isSome_iff_eq_none]
          exact fun hsome => hshape (hread value hsome)
        simp [Option.filter, hshape, hnone]

theorem strings?_rootValue? (o : Object) :
    (rootValue? o "extensions").bind Json.strings? =
      (o.get? "extensions").bind Json.strings? := by
  have hconstraint : rootConstraint? "extensions" = some (.optional "extensions" .strings) := by
    decide
  refine rootValue?_bind hconstraint rfl (fun value hsome => ?_) o
  cases value with
  | list items =>
      obtain ⟨names, hnames⟩ := Option.isSome_iff_exists.1 hsome
      have hitems : names.map Json.string = items.map id :=
        map_of_mapM hnames fun _ _ _ hname => (Json.eq_of_string? hname).symm
      rw [List.map_id] at hitems
      rw [← hitems]
      simp [Constraint.optional, Shape.admits, Json.isString]
  | _ => contradiction

theorem reportedInOrder_checkExtensions (registry : Option Registry) (o : Object) :
    ReportedInOrder
      (UnregisteredAt registry (((o.get? "extensions").bind Json.strings?).getD []))
      (fun position => [.key "extensions", .index position]) (checkExtensions [] registry o) := by
  rw [checkExtensions, strings?_rootValue?]
  cases (o.get? "extensions").bind Json.strings? with
  | none => exact reportedInOrder_nil (by simp [UnregisteredAt])
  | some names =>
      refine reportedInOrder_zipIdx (fun name _ =>
        if Registry.permits registry name then none else some .notListed) ?_ ?_
      · intro name position _
        by_cases hpermits : Registry.permits registry name = true
        · simp [checkRegistered, hpermits]
        · simp [checkRegistered, hpermits, marks, Violation.mark, Finding.violation, Finding.kind]
      · intro position kind
        simp only [UnregisteredAt, Option.getD_some]
        constructor
        · rintro ⟨⟨name, hname, hunknown⟩, rfl⟩
          exact ⟨name, hname, by simp [hunknown]⟩
        · rintro ⟨name, hname, hkind⟩
          by_cases hpermits : Registry.permits registry name = true
          · simp [hpermits] at hkind
          · rw [if_neg hpermits, Option.some.injEq] at hkind
            exact ⟨⟨name, hname, by simpa using hpermits⟩, hkind.symm⟩

theorem string?_rootValue? (o : Object) :
    (rootValue? o "mutator").bind Json.string? = (o.get? "mutator").bind Json.string? := by
  have hconstraint : rootConstraint? "mutator" = some (.optional "mutator" .string) := by
    decide
  refine rootValue?_bind hconstraint rfl (fun value hsome => ?_) o
  cases value with
  | string s => rfl
  | _ => contradiction

theorem marks_checkMutator (registry : Option Registry) (o : Object) :
    (checkMutator [] registry o).marks =
      if ((o.get? "mutator").bind Json.string?).all (Registry.permits registry) then []
      else [([.key "mutator"], .notListed)] := by
  rw [checkMutator, string?_rootValue?]
  cases (o.get? "mutator").bind Json.string? with
  | none => rfl
  | some name =>
      by_cases hpermits : Registry.permits registry name = true
      · simp [checkRegistered, hpermits]
      · simp [checkRegistered, hpermits, marks, Violation.mark, Finding.violation, Finding.kind]

end Blocks

/-! ## The checks of a slot -/

section Slots

variable {mode : Mode} {o : Object} {i : Fin slotCount}

theorem groupedBy_checkEntries (mode : Mode) (i : Fin slotCount) (items : List Json) :
    GroupedBy (ConcernsEntry i) (List.range items.length) (checkEntries mode i items) := by
  have hpositions : items.zipIdx.map Prod.snd = List.range items.length := by
    rw [List.zipIdx_map_snd, List.range_eq_range']
  rw [← hpositions, checkEntries_root]
  refine groupedBy_flatMap Prod.snd ?_
  rintro ⟨item, position⟩ - v hv
  obtain ⟨found, hfound, rfl⟩ := List.mem_map.1 hv
  have hkind : found.kind ∈ .unknownField :: .missingField :: valueKinds :=
    kind_of_mem_checkArgument hfound
  exact ⟨List.prefix_append _ _, hkind⟩

theorem marks_checkIdle (i : Fin slotCount) (o : Object) :
    (checkIdle [] i o).marks =
      (if (o.get? (argumentsKey i)).any Json.isList then
        [([.key (argumentsKey i)], .withoutEffect)] else []) ++
      (if (o.get? (alignKey i)).any Json.isString then
        [([.key (alignKey i)], .withoutEffect)] else []) := by
  have harguments : (shaped? o (arguments i)).isSome =
      (o.get? (argumentsKey i)).any Json.isList := Option.isSome_filter
  have halign : (shaped? o (align i)).isSome =
      (o.get? (alignKey i)).any Json.isString := Option.isSome_filter
  rw [checkIdle, marks_flatMap, List.flatMap_cons, List.flatMap_singleton, harguments, halign,
    marks_violation_if, marks_violation_if]
  rfl

theorem reportedInOrder_checkNames (i : Fin slotCount) (names : List (Option String)) :
    ReportedInOrder (RepeatedName names) (fun position => entryPlace i position ++ [.key "name"])
      (checkNames [] i names) := by
  have hflat : checkNames [] i names = (List.range names.length).flatMap fun position =>
      ((earlier? names position).map fun first =>
        (Finding.duplicateName ((names[position]?.join).getD "") first).violation
          [.key (argumentsKey i), .index position, .key argumentName.key]).toList := by
    rw [checkNames, repeats, List.map_filterMap, List.filterMap_eq_flatMap_toList]
    simp only [Option.map_map, Function.comp_def, List.nil_append]
  rw [hflat]
  refine reportedInOrder_flatMap id
    (fun position => (earlier? names position).map fun _ => .duplicateName) ?_ ?_ ?_
  · rw [List.map_id]
    exact List.pairwise_lt_range
  · intro position _
    cases earlier? names position with
    | none => rfl
    | some first => rfl
  · intro position kind
    rw [RepeatedName, ← exists_earlier?_iff]
    constructor
    · rintro ⟨⟨first, hearlier⟩, rfl⟩
      have hbound : position < names.length := by
        obtain ⟨_, _, _, _, hposition⟩ := exists_earlier?_iff.1 ⟨first, hearlier⟩
        exact (List.getElem?_eq_some_iff.1 hposition).1
      exact ⟨position, List.mem_range.2 hbound, rfl, by rw [hearlier, Option.map_some]⟩
    · rintro ⟨_, -, rfl, hkind⟩
      obtain ⟨first, hearlier, rfl⟩ := Option.map_eq_some_iff.1 hkind
      exact ⟨⟨first, hearlier⟩, rfl⟩

/-- The references are checked where they stand in the message. -/
theorem checkReferences_eq_flatMap (i : Fin slotCount) (count : Nat) (before : List Nat)
    (tokens : List Template.Token) :
    checkReferences i count before (references tokens) =
      tokens.zipIdx.flatMap fun (token, position) =>
        match reference? token with
        | none => []
        | some reference => checkReference i count
            (before ++ (references (tokens.take position)).map Prod.fst) reference := by
  induction tokens generalizing before with
  | nil => rfl
  | cons token rest ih =>
      rw [List.zipIdx_cons, List.flatMap_cons, List.zipIdx_succ, List.flatMap_map]
      cases hreference : reference? token with
      | none =>
          have hskip : ∀ part, references (token :: part) = references part := fun part => by
            rw [references, List.filterMap_cons_none hreference, references]
          simp only [hskip, ih, List.take_succ_cons, hreference, List.nil_append]
      | some reference =>
          have hkeep : ∀ part, references (token :: part) = reference :: references part :=
            fun part => by
              rw [references, List.filterMap_cons_some hreference, references]
          simp only [hkeep, checkReferences, ih, List.take_succ_cons, List.map_cons,
            List.append_assoc, List.singleton_append, hreference]
          simp [references]

/-- The kind that a reference is reported with, after the numbers `before` it. -/
def referenceKind? (count : Nat) (before : List Nat) (n : Nat) : Option Violation.Kind :=
  if n = 0 ∨ count < n then some (.placeholderOutOfRange n)
  else if before.count n = 1 then some (.duplicatePlaceholder n)
  else none

theorem marks_checkReference (i : Fin slotCount) (count : Nat) (before : List Nat)
    (reference : Nat × String) :
    (checkReference i count before reference).marks =
      ((referenceKind? count before reference.1).map fun kind =>
        ([.key (messageKey i)], kind)).toList := by
  obtain ⟨n, written⟩ := reference
  simp only [checkReference, referenceKind?]
  split
  · rfl
  · split
    · rfl
    · rfl

theorem referenceKind?_eq_some_iff {count : Nat} {before : List Nat} {n : Nat}
    {kind : Violation.Kind} :
    referenceKind? count before n = some kind ↔
      (n = 0 ∨ count < n) ∧ kind = .placeholderOutOfRange n ∨
        (1 ≤ n ∧ n ≤ count) ∧ before.count n = 1 ∧ kind = .duplicatePlaceholder n := by
  unfold referenceKind?
  by_cases hrange : n = 0 ∨ count < n
  · have hnot : ¬(1 ≤ n ∧ n ≤ count) := by omega
    simp [hrange, hnot, eq_comm]
  · have hwithin : 1 ≤ n ∧ n ≤ count := by omega
    by_cases hcount : before.count n = 1
    · simp [hrange, hwithin, hcount, eq_comm]
    · simp [hrange, hcount]

theorem reportedInOrder_checkReferences (i : Fin slotCount) (count : Nat)
    (tokens : List Template.Token) :
    ReportedInOrder (Misreference count tokens) (fun _ => [.key (messageKey i)])
      (checkReferences i count [] (references tokens)) := by
  rw [checkReferences_eq_flatMap]
  refine reportedInOrder_zipIdx (fun token position => (reference? token).bind fun reference =>
    referenceKind? count ((references (tokens.take position)).map Prod.fst) reference.1) ?_ ?_
  · intro token position _
    cases hreference : reference? token with
    | none => simp [hreference]
    | some reference => simp [hreference, marks_checkReference]
  · intro position kind
    simp only [Misreference, Option.bind_eq_some_iff, ← referenceKind?_eq_some_iff]
    constructor
    · rintro ⟨n, written, ⟨token, htoken, hreference⟩, hkind⟩
      exact ⟨token, htoken, (n, written), hreference, hkind⟩
    · rintro ⟨token, htoken, ⟨n, written⟩, hreference, hkind⟩
      exact ⟨n, written, ⟨token, htoken, hreference⟩, hkind⟩

theorem reportedInOrder_checkReferenced (i : Fin slotCount) (tokens : List Template.Token)
    (names : List (Option String)) :
    ReportedInOrder (Unreferenced names.length tokens) (entryPlace i)
      (names.zipIdx.flatMap fun (name, position) =>
        checkReferenced i ((references tokens).map Prod.fst) position name) := by
  refine reportedInOrder_zipIdx (fun _ position =>
    if position + 1 ∈ (references tokens).map Prod.fst then none
    else some (.unreferencedArgument (position + 1))) ?_ ?_
  · intro name position _
    by_cases hmem : position + 1 ∈ (references tokens).map Prod.fst
    · simp [checkReferenced, hmem]
    · simp only [checkReferenced, List.contains_iff_mem, hmem, if_false]
      rfl
  · intro position kind
    rw [Unreferenced]
    constructor
    · rintro ⟨⟨hbound, hmissing⟩, rfl⟩
      exact ⟨names[position], List.getElem?_eq_getElem hbound, if_neg hmissing⟩
    · rintro ⟨name, hname, hkind⟩
      by_cases hmem : position + 1 ∈ (references tokens).map Prod.fst
      · rw [if_pos hmem] at hkind
        contradiction
      · rw [if_neg hmem, Option.some.injEq] at hkind
        exact ⟨⟨(List.getElem?_eq_some_iff.1 hname).1, hmem⟩, hkind.symm⟩

theorem marks_checkAlign (i : Fin slotCount) (o : Object) (tokens : List Template.Token)
    (kinds : List (Option ArgumentKind)) :
    (checkAlign [] i o tokens kinds).marks =
      if (o.get? (alignKey i)).any Json.isString ∧
          Template.impliesDummy tokens (isInputAt kinds) = false then
        [([.key (alignKey i)], .withoutEffect)]
      else [] := by
  have halign : (shaped? o (align i)).isSome =
      (o.get? (alignKey i)).any Json.isString := Option.isSome_filter
  rw [checkAlign, halign, marks_violation_if]
  simp only [Bool.and_eq_true, Bool.not_eq_true', Finding.kind, List.nil_append]

theorem exists_messageReport (i : Fin slotCount) (o : Object) (message : String) :
    ∃ r : MessageReport, checkMessage [] i o message = r.inOrder ∧ r.Describes o i message := by
  let tokens := Template.tokenize message
  let names := (entries i o).map argumentName?
  let r : MessageReport :=
    { names := checkNames [] i names
      references := checkReferences i names.length [] (references tokens)
      unreferenced := names.zipIdx.flatMap fun (name, position) =>
        checkReferenced i ((references tokens).map Prod.fst) position name
      align := checkAlign [] i o tokens ((entries i o).map argumentKind?) }
  have hlength : names.length = (entries i o).length := List.length_map _
  refine ⟨r, ?_, ?_, ?_, ?_, ?_⟩
  · simp only [checkMessage, checkPlaceholders_eq_references, MessageReport.inOrder, List.append_assoc, r,
      names, tokens]
  · exact reportedInOrder_checkNames i names
  · exact hlength ▸ reportedInOrder_checkReferences i names.length tokens
  · exact hlength ▸ reportedInOrder_checkReferenced i tokens names
  · exact marks_checkAlign i o tokens _

theorem slotInOrder_checkSlot (mode : Mode) (o : Object) (i : Fin slotCount) :
    SlotInOrder mode o i (checkSlot mode o i) := by
  have hown := groupedBy_checkEntries mode i (entries i o)
  unfold checkSlot
  cases hmessage : (o.get? (messageKey i)).bind Json.string? with
  | none => exact .withoutMessage hmessage hown (marks_checkIdle i o)
  | some message =>
      cases hrules : mode.checksRules with
      | true =>
          obtain ⟨r, hreport, hdescribes⟩ := exists_messageReport i o message
          simp only [if_true, hreport]
          exact .withMessage r hmessage hown hrules hdescribes
      | false =>
          simp only [Bool.false_eq_true, if_false, List.append_nil]
          exact .withoutRules hmessage hown hrules

end Slots

/-! ## Documents -/

/-- The violations of a block come in the order of its report, in every mode, with
any registries and at any place.  That the keys ascend is no restriction, since
the readers give no other objects. -/
theorem violations_in_order (c : Context) {o : Object} (hasc : o.Ascending) :
    ∃ r : BlockReport,
      (validate c (.object o)).violations = reported c.mode c.path r.inOrder ∧
        r.Describes c o := by
  let r : BlockReport :=
    { variant := checkVariant [] o
      declared := checkConstraints c.mode o (rootConstraints o)
      unknown := checkUnknownKeys [] isRootKey o
      colours := checkColours c.mode o
      extensions := checkExtensions [] c.extensions o
      mutator := checkMutator [] c.mutators o
      slot := checkSlot c.mode o }
  have hinOrder : checkDocument c.atRoot (.object o) = r.inOrder := checkBlock_atRoot c o
  refine ⟨r, ?_, ?_⟩
  · rw [violations_validate, hinOrder]
  exact {
    variant := marks_checkVariant o
    declared := groupedBy_checkConstraints c.mode o
    unknown := reportedInOrder_checkUnknownKeys hasc
    colours := marks_checkColours c.mode o
    extensions := reportedInOrder_checkExtensions c.extensions o
    mutator := marks_checkMutator c.mutators o
    slot := slotInOrder_checkSlot c.mode o }

/-- A block with something wrong in every part of its report. -/
theorem violations_in_order_everywhere :
    let c : Context := ⟨.tolerant, some ⟨["here"]⟩, some ⟨[]⟩, [.index 2]⟩
    let input := fun name => Json.object [("name", .string name), ("type", .string "input_value")]
    let o : Object := [
      ("alpha", .null),
      ("args0", .list [input "N", input "N", .bool true]),
      ("args1", .list []),
      ("colour", .string "red"),
      ("extensions", .list [.string "here", .string "gone"]),
      ("lastDummyAlign0", .string "LEFT"),
      ("lastDummyAlign1", .string "TOP"),
      ("message0", .string "%4 %1 %1 %3"),
      ("mutator", .string "lost"),
      ("nextStatement", .null),
      ("output", .bool true),
      ("style", .string "plain"),
      ("zeta", .null)]
    o.Ascending ∧
      (validate c (.object o)).violations.map Violation.kind =
        [.exclusiveFields,
          .missingField, .notListed, .structuralMismatch,
          .unknownField, .unknownField,
          .exclusiveFields, .notListed, .notListed,
          .structuralMismatch, .duplicateName, .placeholderOutOfRange 4, .duplicatePlaceholder 1,
          .unreferencedArgument 2, .withoutEffect,
          .withoutEffect, .withoutEffect] ∧
      ∃ r : BlockReport,
        (validate c (.object o)).violations = reported c.mode c.path r.inOrder ∧
          r.Describes c o := by
  intro c input o
  have hasc : o.Ascending := by
    unfold Object.Ascending
    decide
  have hkinds : (validate c (.object o)).violations.map Violation.kind =
      [.exclusiveFields,
        .missingField, .notListed, .structuralMismatch,
        .unknownField, .unknownField,
        .exclusiveFields, .notListed, .notListed,
        .structuralMismatch, .duplicateName, .placeholderOutOfRange 4, .duplicatePlaceholder 1,
        .unreferencedArgument 2, .withoutEffect,
        .withoutEffect, .withoutEffect] := by
    decide +kernel
  exact ⟨hasc, hkinds, violations_in_order c hasc⟩

end EditorBlocks.Validation
