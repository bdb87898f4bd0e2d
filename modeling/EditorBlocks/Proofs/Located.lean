import EditorBlocks.Proofs.Acceptance
import EditorBlocks.Proofs.KeptRules
import EditorBlocks.Proofs.Objects
import EditorBlocks.Proofs.PathLookup
import EditorBlocks.Proofs.References

/-!
# Violations point into their document

Every violation lies at a value that its document has.  A key that is missing
is the one exception: there the path ends in that key, and the rest of it leads
to the object that lacks it.

Each check is looked at from the value it is given, and a check that is handed a
part of a value reports below the place of that part; so the places of a whole
report come from those of its checks, one level at a time.
-/

namespace EditorBlocks

/-- What is read item by item is in the places it was read from. -/
theorem getElem?_of_mapM {α β : Type} {f : α → Option β} {xs : List α} {ys : List β}
    (hread : xs.mapM f = some ys) (position : Nat) :
    ys[position]? = xs[position]?.bind f := by
  induction xs generalizing ys position with
  | nil =>
      obtain rfl : [] = ys := Option.some.inj hread
      rfl
  | cons x rest ih =>
      simp only [List.mapM_cons, Option.bind_eq_bind, Option.bind_eq_some_iff] at hread
      obtain ⟨y, hy, zs, hzs, heq⟩ := hread
      obtain rfl : y :: zs = ys := Option.some.inj heq
      cases position with
      | zero => simp [hy]
      | succ position => simpa using ih hzs position

/-- The place of the violation is in the value. -/
structure Violation.PointsInto (v : Violation) (value : Json) : Prop where
  present : v.kind ≠ .missingField → ∃ found, value.at? v.path = some found
  absent : v.kind = .missingField → ∃ above key o,
    v.path = above ++ [.key key] ∧ value.at? above = some (.object o) ∧
      Object.get? o key = none

theorem Violation.PointsInto.under {v : Violation} {value document : Json} {above : Path}
    (hplace : document.at? above = some value) (hpoints : v.PointsInto value) :
    (v.under above).PointsInto document := by
  have hbelow : ∀ path, document.at? (above ++ path) = value.at? path := by
    intro path
    rw [Json.at?_append, hplace, Option.bind_some]
  constructor
  · intro hkind
    obtain ⟨found, hfound⟩ := hpoints.present hkind
    exact ⟨found, (hbelow v.path).trans hfound⟩
  · intro hkind
    obtain ⟨inner, key, o, hpath, hobject, hnone⟩ := hpoints.absent hkind
    refine ⟨above ++ inner, key, o, ?_, (hbelow inner).trans hobject, hnone⟩
    rw [Violation.under, hpath, List.append_assoc]

namespace Violations

/-- All violations point into the value. -/
def PointInto (vs : Violations) (value : Json) : Prop := ∀ v ∈ vs, v.PointsInto value

section

variable {vs ws : Violations} {value : Json}

@[simp]
theorem pointInto_nil : PointInto [] value := fun _ hv => absurd hv List.not_mem_nil

theorem pointInto_singleton {v : Violation} (hpoints : v.PointsInto value) :
    PointInto [v] value :=
  fun _ hv => List.mem_singleton.1 hv ▸ hpoints

theorem pointInto_append (hvs : vs.PointInto value) (hws : ws.PointInto value) :
    PointInto (vs ++ ws) value :=
  List.forall_mem_append.2 ⟨hvs, hws⟩

theorem pointInto_flatMap {α : Type} {xs : List α} {f : α → Violations}
    (heach : ∀ x ∈ xs, (f x).PointInto value) : PointInto (xs.flatMap f) value := by
  intro v hv
  obtain ⟨x, hx, hv⟩ := List.mem_flatMap.1 hv
  exact heach x hx v hv

theorem PointInto.under {document : Json} {above : Path}
    (hplace : document.at? above = some value) (hpoints : vs.PointInto value) :
    (vs.under above).PointInto document := by
  intro v hv
  obtain ⟨below, hbelow, rfl⟩ := List.mem_map.1 hv
  exact (hpoints below hbelow).under hplace

end

end Violations

namespace Validation

open Schema Violations

/-! ## Single findings -/

section Findings

variable {f : Finding} {path : Path} {value : Json}

theorem pointsInto_found {found : Json} (hkind : f.kind ≠ .missingField)
    (hfound : value.at? path = some found) : (f.violation path).PointsInto value :=
  ⟨fun _ => ⟨found, hfound⟩, fun hmissing => absurd hmissing hkind⟩

theorem pointInto_found {found : Json} (hkind : f.kind ≠ .missingField)
    (hfound : value.at? path = some found) : PointInto [f.violation path] value :=
  pointInto_singleton (pointsInto_found hkind hfound)

theorem pointInto_here (hkind : f.kind ≠ .missingField) : PointInto [f.violation []] value :=
  pointInto_found hkind (Json.at?_nil value)

theorem pointInto_here_if {p : Prop} [Decidable p] (hkind : f.kind ≠ .missingField) :
    PointInto (if p then [f.violation []] else []) value := by
  split
  · exact pointInto_here hkind
  · exact pointInto_nil

theorem pointInto_missing {o : Object} {key : String} (hkind : f.kind = .missingField)
    (hnone : o.get? key = none) : PointInto [f.violation [.key key]] (.object o) :=
  pointInto_singleton
    ⟨fun hpresent => absurd hkind hpresent, fun _ => ⟨[], key, o, rfl, rfl, hnone⟩⟩

end Findings

theorem at?_key {o : Object} {key : String} {value : Json} (hvalue : o.get? key = some value) :
    (Json.object o).at? [.key key] = some value := by
  simp [hvalue]

theorem at?_index {items : List Json} {position : Nat} {item : Json}
    (hentry : (item, position) ∈ items.zipIdx) :
    (Json.list items).at? [.index position] = some item := by
  simpa using List.mk_mem_zipIdx_iff_getElem?.1 hentry

/-! ## The checks of one key -/

section Keys

variable {mode : Mode} {o : Object}

theorem pointInto_checkOptions (options : List Json) :
    (checkOptions mode options).PointInto (.list options) := by
  apply pointInto_flatMap
  rintro ⟨option, position⟩ hentry
  have hplace := at?_index hentry
  apply pointInto_append
  · split
    · exact pointInto_found nofun hplace
    · exact pointInto_nil
  · split
    · cases earlier? (options.map optionValue?) position with
      | none => exact pointInto_nil
      | some first => exact pointInto_found nofun hplace
    · exact pointInto_nil

/-- A repeated key is the key of an entry. -/
theorem exists_entry_of_mem_repeats {keys : List (Option String)} {position first : Nat}
    (hmem : (position, first) ∈ repeats keys) : ∃ key, keys[position]? = some (some key) := by
  obtain ⟨-, key, hkey, -⟩ := earlier?_eq_some_iff.1 (mem_repeats_iff.1 hmem)
  exact ⟨key, hkey⟩

theorem pointInto_checkDistinctTypes (key : String) (items : List Json) :
    (checkDistinctTypes [] key items).PointInto (.list items) := by
  apply pointInto_append
  · exact pointInto_here_if nofun
  · intro v hv
    obtain ⟨⟨position, first⟩, hrepeat, rfl⟩ := List.mem_map.1 hv
    obtain ⟨name, hname⟩ := exists_entry_of_mem_repeats hrepeat
    rw [List.getElem?_map] at hname
    obtain ⟨item, hitem, -⟩ := Option.map_eq_some_iff.1 hname
    have hplace : (Json.list items).at? [.index position] = some item := by
      simpa using hitem
    exact pointsInto_found nofun hplace

theorem pointInto_checkRule (key : String) (value : Json) (rule : Rule) :
    (checkRule mode key value rule).PointInto value := by
  unfold checkRule
  split
  next names s =>
    unfold checkListed
    split
    · exact pointInto_nil
    · exact pointInto_here nofun
  next =>
    split
    · exact pointInto_nil
    · split
      next items => exact pointInto_here_if nofun
      next n => exact pointInto_here_if nofun
      next n =>
        split
        · exact pointInto_nil
        · exact pointInto_here nofun
      next items _ => exact pointInto_checkDistinctTypes key items
      next => exact pointInto_nil

theorem pointInto_checkValue (c : Constraint) (value : Json) :
    (checkValue mode c value).PointInto value := by
  unfold checkValue
  split
  · exact pointInto_here nofun
  · apply pointInto_append
    · split
      · exact pointInto_checkOptions _
      · exact pointInto_nil
    · exact pointInto_flatMap fun rule _ => pointInto_checkRule c.key value rule

theorem pointInto_checkConstraint (c : Constraint) :
    (checkConstraint mode o c).PointInto (.object o) := by
  rw [checkConstraint_root]
  split
  next hnone =>
    split
    · exact pointInto_missing rfl hnone
    · exact pointInto_nil
  next value hvalue => exact (pointInto_checkValue c value).under (at?_key hvalue)

theorem pointInto_checkConstraints (constraints : List Constraint) :
    (checkConstraints mode o constraints).PointInto (.object o) :=
  pointInto_flatMap fun c _ => pointInto_checkConstraint c

theorem pointInto_checkUnknownKeys (isKnown : String → Bool) :
    (checkUnknownKeys [] isKnown o).PointInto (.object o) := by
  intro v hv
  obtain ⟨key, hkey, rfl⟩ := List.mem_map.1 hv
  have hthere : o.get? key ≠ none := by
    rw [ne_eq, Object.get?_eq_none_iff, not_not]
    exact (List.mem_filter.1 hkey).1
  obtain ⟨value, hvalue⟩ := Option.ne_none_iff_exists'.1 hthere
  exact pointsInto_found nofun (at?_key hvalue)

end Keys

/-! ## Arguments -/

section Arguments

variable {mode : Mode} {o : Object}

theorem pointInto_checkJointRule (rule : JointRule) :
    (checkJointRule [] o rule).PointInto (.object o) := by
  cases rule with
  | orderedBounds =>
      simp only [checkJointRule, checkOrderedBounds]
      split
      · exact pointInto_here_if nofun
      · exact pointInto_nil
  | valueInBounds =>
      simp only [checkJointRule, checkValueInBounds]
      split
      · exact pointInto_nil
      · apply pointInto_append
        · split
          · exact pointInto_here_if nofun
          · exact pointInto_nil
        · split
          · exact pointInto_here_if nofun
          · exact pointInto_nil
  | defaultTypeListed =>
      simp only [checkJointRule, checkDefaultType]
      split
      next type types htype htypes =>
        obtain ⟨value, hvalue, -⟩ := Option.bind_eq_some_iff.1 htype
        split
        · exact pointInto_nil
        · exact pointInto_found nofun (at?_key hvalue)
      next => exact pointInto_nil

theorem pointInto_unknownKind (o : Object) :
    PointInto [(unknownKind o).violation [.key argumentType.key]] (.object o) := by
  unfold unknownKind
  split
  next hnone => exact pointInto_missing rfl hnone
  next name hname => exact pointInto_found nofun (at?_key hname)
  next found _ hfound => exact pointInto_found nofun (at?_key hfound)

theorem pointInto_checkArgument (item : Json) :
    (checkArgument mode item).PointInto item := by
  have hother : ∀ value,
      PointInto [(Finding.notAnArgument value).violation []] value :=
    fun value => pointInto_here nofun
  cases item with
  | object o =>
      simp only [checkArgument]
      split
      next kind _ =>
        apply pointInto_append
        · apply pointInto_append (pointInto_checkConstraints _)
          split
          · exact pointInto_nil
          · exact pointInto_checkUnknownKeys _
        · split
          · exact pointInto_flatMap fun rule _ => pointInto_checkJointRule rule
          · exact pointInto_nil
      next =>
        exact pointInto_append (pointInto_unknownKind o) (pointInto_checkConstraint _)
  | null | bool | number | string | list =>
      rw [checkArgument]
      · exact hother _
      · intro o hobject
        contradiction

end Arguments

/-! ## Slots -/

section Slots

variable {mode : Mode} {o : Object} {i : Fin slotCount}

/-- The entries of a slot lie at their positions. -/
theorem at?_entry {position : Nat} {item : Json}
    (hitem : (entries i o)[position]? = some item) :
    (Json.object o).at? [.key (argumentsKey i), .index position] = some item := by
  have hmem : item ∈ entries i o := List.mem_of_getElem? hitem
  obtain ⟨items, hvalue, -⟩ := exists_list_of_mem_entries hmem
  rw [entries_of_get? hvalue] at hitem
  simp [hvalue, hitem]

theorem pointInto_checkEntries :
    (checkEntries mode i (entries i o)).PointInto (.object o) := by
  rw [checkEntries_root]
  apply pointInto_flatMap
  rintro ⟨item, position⟩ hentry
  have hitem := List.mk_mem_zipIdx_iff_getElem?.1 hentry
  exact (pointInto_checkArgument item).under (at?_entry hitem)

theorem pointInto_checkNames :
    (checkNames [] i ((entries i o).map argumentName?)).PointInto (.object o) := by
  intro v hv
  obtain ⟨⟨position, first⟩, hrepeat, rfl⟩ := List.mem_map.1 hv
  obtain ⟨name, hname⟩ := exists_entry_of_mem_repeats hrepeat
  rw [List.getElem?_map] at hname
  obtain ⟨item, hitem, hnamed⟩ := Option.map_eq_some_iff.1 hname
  have hplace : item.at? [.key argumentName.key] = some (.string name) := by
    simp only [argumentName?, Option.bind_eq_bind, Option.bind_eq_some_iff] at hnamed
    obtain ⟨members, hobject, value, hvalue, hstring⟩ := hnamed
    cases item with
    | object found =>
        obtain rfl := Option.some.inj hobject
        rw [Json.eq_of_string? hstring] at hvalue
        exact at?_key hvalue
    | _ => contradiction
  have hname : (Json.object o).at?
      [.key (argumentsKey i), .index position, .key argumentName.key] = some (.string name) := by
    have hsplit := Json.at?_append (.object o) [.key (argumentsKey i), .index position]
      [.key argumentName.key]
    rw [at?_entry hitem, Option.bind_some, hplace] at hsplit
    exact hsplit
  exact pointsInto_found nofun hname

theorem pointInto_checkReferences {count : Nat} {before : List Nat}
    {refs : List (Nat × String)} {message : Json}
    (hmessage : o.get? (messageKey i) = some message) :
    (checkReferences i count before refs).PointInto (.object o) := by
  induction refs generalizing before with
  | nil => exact pointInto_nil
  | cons reference rest ih =>
      apply pointInto_append _ ih
      simp only [checkReference]
      split
      · exact pointInto_found Violation.Kind.noConfusion (at?_key hmessage)
      · split
        · exact pointInto_found Violation.Kind.noConfusion (at?_key hmessage)
        · exact pointInto_nil

theorem pointInto_checkPlaceholders {tokens : List Template.Token} {message : Json}
    (hmessage : o.get? (messageKey i) = some message) :
    (checkPlaceholders [] i tokens ((entries i o).map argumentName?)).PointInto (.object o) := by
  rw [checkPlaceholders_eq_references]
  apply pointInto_append (pointInto_checkReferences hmessage)
  apply pointInto_flatMap
  rintro ⟨name, position⟩ hentry
  have hname := List.mk_mem_zipIdx_iff_getElem?.1 hentry
  rw [List.getElem?_map] at hname
  obtain ⟨item, hitem, -⟩ := Option.map_eq_some_iff.1 hname
  simp only [checkReferenced]
  split
  · exact pointInto_nil
  · exact pointInto_found Violation.Kind.noConfusion (at?_entry hitem)

/-- What has the right shape is there. -/
theorem get?_of_shaped? {c : Constraint} (hshaped : (shaped? o c).isSome = true) :
    ∃ value, o.get? c.key = some value := by
  obtain ⟨value, hvalue⟩ := Option.isSome_iff_exists.1 hshaped
  exact ⟨value, (Option.filter_eq_some_iff.1 hvalue).1⟩

theorem pointInto_checkAlign {tokens : List Template.Token}
    {kinds : List (Option ArgumentKind)} :
    (checkAlign [] i o tokens kinds).PointInto (.object o) := by
  unfold checkAlign
  split
  next halign =>
    rw [Bool.and_eq_true] at halign
    obtain ⟨value, hvalue⟩ := get?_of_shaped? halign.1
    exact pointInto_found nofun (at?_key hvalue)
  next => exact pointInto_nil

theorem pointInto_checkIdle : (checkIdle [] i o).PointInto (.object o) := by
  apply pointInto_flatMap
  intro c _
  split
  next hshaped =>
    obtain ⟨value, hvalue⟩ := get?_of_shaped? hshaped
    exact pointInto_found nofun (at?_key hvalue)
  next => exact pointInto_nil

theorem pointInto_checkSlot : (checkSlot mode o i).PointInto (.object o) := by
  apply pointInto_append pointInto_checkEntries
  split
  next => exact pointInto_checkIdle
  next text htext =>
    obtain ⟨message, hmessage, -⟩ := Option.bind_eq_some_iff.1 htext
    split
    · exact pointInto_append
        (pointInto_append pointInto_checkNames (pointInto_checkPlaceholders hmessage))
        pointInto_checkAlign
    · exact pointInto_nil

end Slots

/-! ## Blocks and documents -/

section Blocks

variable {o : Object}

theorem get?_of_rootValue? {key : String} {value : Json}
    (hvalue : rootValue? o key = some value) : o.get? key = some value := by
  obtain ⟨c, hc, hshaped⟩ := Option.bind_eq_some_iff.1 hvalue
  have hkey : c.key = key := by simpa using List.find?_some hc
  rw [← hkey]
  exact (Option.filter_eq_some_iff.1 hshaped).1

theorem pointInto_checkRegistered {what name : String} {registry : Option Registry}
    {path : Path} {found : Json} (hfound : (Json.object o).at? path = some found) :
    (checkRegistered what registry path name).PointInto (.object o) := by
  unfold checkRegistered
  split
  · exact pointInto_nil
  · exact pointInto_found nofun hfound

theorem pointInto_checkExtensions (registry : Option Registry) :
    (checkExtensions [] registry o).PointInto (.object o) := by
  unfold checkExtensions
  split
  next => exact pointInto_nil
  next names hnames =>
    obtain ⟨value, hvalue, hstrings⟩ := Option.bind_eq_some_iff.1 hnames
    obtain ⟨items, hitems, hread⟩ := Option.bind_eq_some_iff.1 hstrings
    have hthere := get?_of_rootValue? hvalue
    apply pointInto_flatMap
    rintro ⟨name, position⟩ hentry
    have hname := List.mk_mem_zipIdx_iff_getElem?.1 hentry
    rw [getElem?_of_mapM hread] at hname
    obtain ⟨item, hitem, -⟩ := Option.bind_eq_some_iff.1 hname
    have hplace : (Json.object o).at? [.key "extensions", .index position] = some item := by
      simp [hthere, Json.eq_of_list? hitems, hitem]
    exact pointInto_checkRegistered hplace

theorem pointInto_checkMutator (registry : Option Registry) :
    (checkMutator [] registry o).PointInto (.object o) := by
  unfold checkMutator
  split
  next => exact pointInto_nil
  next name hname =>
    obtain ⟨value, hvalue, -⟩ := Option.bind_eq_some_iff.1 hname
    exact pointInto_checkRegistered (at?_key (get?_of_rootValue? hvalue))

theorem pointInto_checkBlock (c : Context) : (checkBlock c.atRoot o).PointInto (.object o) := by
  have hvariant : (checkVariant [] o).PointInto (.object o) := pointInto_here_if nofun
  have hcolours : (checkColours c.mode o).PointInto (.object o) := pointInto_here_if nofun
  have hslots : PointInto (slots.flatMap (checkSlot c.mode o)) (.object o) :=
    pointInto_flatMap fun i _ => pointInto_checkSlot
  rw [checkBlock_atRoot]
  refine pointInto_append ?_ hslots
  refine pointInto_append ?_ (pointInto_checkMutator c.mutators)
  refine pointInto_append ?_ (pointInto_checkExtensions c.extensions)
  refine pointInto_append ?_ hcolours
  refine pointInto_append ?_ (pointInto_checkUnknownKeys isRootKey)
  exact pointInto_append hvariant (pointInto_checkConstraints _)

theorem pointInto_checkDocument (c : Context) (document : Json) :
    (checkDocument c.atRoot document).PointInto document := by
  have hother : ∀ value, PointInto [(Finding.notABlock value).violation []] value :=
    fun value => pointInto_here nofun
  cases document with
  | object o => exact pointInto_checkBlock c
  | null | bool | number | string | list =>
      rw [checkDocument]
      · exact hother _
      · intro o hobject
        contradiction

end Blocks

/-! ## Reports -/

/-- What a report says was found by a check, at a place below that of the document. -/
theorem exists_mem_checkDocument {c : Context} {document : Json} {v : Violation}
    (hv : v ∈ (validate c document).violations) :
    ∃ found ∈ checkDocument c.atRoot document,
      v.path = c.path ++ found.path ∧ v.kind = found.kind ∧ v.detail = found.detail := by
  rw [violations_validate, reported] at hv
  split at hv
  next =>
    obtain ⟨placed, hplaced, rfl⟩ := List.mem_map.1 hv
    obtain ⟨found, hfound, rfl⟩ := List.mem_map.1 hplaced
    exact ⟨found, hfound, rfl, rfl, rfl⟩
  next =>
    obtain ⟨found, hfound, rfl⟩ := List.mem_map.1 hv
    exact ⟨found, hfound, rfl, rfl, rfl⟩

/-- From the place of the document on, a violation leads to a value that the
document has.  Of a key that is missing it leads to an object without the key. -/
theorem violations_point_into_document (c : Context) (document : Json) :
    ∀ v ∈ (validate c document).violations, ∃ place,
      v.path = c.path ++ place ∧
      (v.kind ≠ .missingField → ∃ found, document.at? place = some found) ∧
      (v.kind = .missingField → ∃ above key o,
        place = above ++ [.key key] ∧ document.at? above = some (.object o) ∧
          Object.get? o key = none) := by
  intro v hv
  obtain ⟨found, hfound, hpath, hkind, -⟩ := exists_mem_checkDocument hv
  have hpoints : found.PointsInto document := pointInto_checkDocument c document found hfound
  rw [hkind]
  exact ⟨found.path, hpath, hpoints.present, hpoints.absent⟩

/-- An argument without a name, and a message that does not refer to it. -/
theorem violations_point_into_document_unnamed :
    let c : Context := ⟨.strict, none, none, [.key "blocks", .index 3]⟩
    let argument : Object := [("type", .string "input_dummy")]
    let document := Json.object [
      ("args0", .list [.object argument]), ("message0", .string "loop"), ("type", .string "a")]
    let unnamed := (Finding.missing "name").violation
      [.key "blocks", .index 3, .key "args0", .index 0, .key "name"]
    let unreferenced := (Finding.unreferencedArgument 1 none "message0").violation
      [.key "blocks", .index 3, .key "args0", .index 0]
    (validate c document).violations = [unnamed, unreferenced] ∧
      (∃ place, unnamed.path = c.path ++ place ∧ ∃ above key o,
        place = above ++ [.key key] ∧ document.at? above = some (.object o) ∧
          Object.get? o key = none) ∧
      ∃ place, unreferenced.path = c.path ++ place ∧
        ∃ found, document.at? place = some found := by
  intro c argument document unnamed unreferenced
  have hreport : (validate c document).violations = [unnamed, unreferenced] := by
    decide +kernel
  have hpoints := violations_point_into_document c document
  rw [hreport] at hpoints
  refine ⟨hreport, ?_, ?_⟩
  · obtain ⟨place, hpath, -, habsent⟩ := hpoints unnamed List.mem_cons_self
    exact ⟨place, hpath, habsent rfl⟩
  · obtain ⟨place, hpath, hpresent, -⟩ :=
      hpoints unreferenced (List.mem_cons_of_mem _ List.mem_cons_self)
    exact ⟨place, hpath, hpresent nofun⟩

end Validation

end EditorBlocks
