import EditorBlocks.Proofs.Provenance
import EditorBlocks.Proofs.RenderedValues
import EditorBlocks.Proofs.Rendering

/-!
# What a strictly accepted document keeps

A document that is accepted where warnings block comes back in the definition:
every key at every depth is written at its place with its value.  Two things are
left out on purpose, an empty list of arguments and the difference between a
whole number and a float.

One level is not looked after.  An option of a dropdown may have an image for a
label, and keys of the image that nobody knows are neither reported nor kept.
So a document comes back exactly when its image labels have the keys of an
image only.
-/

namespace EditorBlocks

namespace Validation

open Schema

/-! ## What is kept -/

/-- Every key of the document is written at its place with its value, an empty
list of arguments apart. -/
def Keeps (document written : Json) : Prop :=
  ∀ (path : Path) (key : String) (value : Json),
    document.at? (path ++ [.key key]) = some value →
      (path = [] ∧ value = .list [] ∧ ∃ i, key = argumentsKey i) ∨
      ∃ found, written.at? (path ++ [.key key]) = some found ∧ value.RenderedAs found

/-- What lies at the path, if it is an object, has the keys of an image only. -/
def PlainImageAt (value : Json) (path : Path) : Prop :=
  ∀ label : Object, value.at? path = some (.object label) →
    ∀ key ∈ label.keys, key ∈ NormalForm.imageKeys

/-- The image labels of all dropdowns have the keys of an image only. -/
def LabelsPlain (document : Json) : Prop :=
  ∀ (i : Fin slotCount) (position option : Nat) (item : Json),
    document.at? [.key (argumentsKey i), .index position] = some item →
    argumentKind? item = some .dropdown →
    PlainImageAt item [.key "options", .index option, .index 0]

theorem PlainImageAt.child {value child : Json} {segment : Segment} {rest : Path}
    (hplain : PlainImageAt value (segment :: rest))
    (hchild : value.child? segment = some child) : PlainImageAt child rest := by
  intro label hlabel
  apply hplain label
  rw [Json.at?_cons, hchild, Option.bind_some, hlabel]

/-! ## Nothing is reported, so every key is known -/

theorem isKnown_of_checkUnknownKeys {isKnown : String → Bool} {o : Object}
    (hnil : checkUnknownKeys [] isKnown o = []) : ∀ key ∈ o.keys, isKnown key = true := by
  intro key hkey
  have hnone : (o.keys.filter fun key => !isKnown key) = [] := List.map_eq_nil_iff.1 hnil
  simpa using List.filter_eq_nil_iff.1 hnone key hkey

theorem isArgumentKey_of_checkArgument {mode : Mode} {o : Object} {kind : ArgumentKind}
    (hkind : argumentKind? (.object o) = some kind) (hform : kind.isFreeForm = false)
    (hnil : checkArgument mode (.object o) = []) :
    ∀ key ∈ o.keys, NormalForm.isArgumentKey kind key = true := by
  have hothers : (argument kind).carriesOthers = kind.isFreeForm := by
    cases kind <;> rfl
  simp only [checkArgument, hkind, checkKnownArgument, hothers, hform, Bool.false_eq_true,
    if_false, List.append_eq_nil_iff] at hnil
  exact isKnown_of_checkUnknownKeys hnil.1.2

/-- Where nothing is reported, a slot without a message has no settings. -/
theorem get?_eq_none_of_checkSlot {mode : Mode} {o : Object} {i : Fin slotCount}
    (hproper : ProperBlock o) (hnil : checkSlot mode o i = [])
    (hmessage : o.has (messageKey i) = false) :
    o.get? (argumentsKey i) = none ∧ o.get? (alignKey i) = none := by
  have hnone : o.get? (messageKey i) = none := by simpa [Object.has] using hmessage
  have hidle : checkIdle [] i o = [] := by
    have hrest := (List.append_eq_nil_iff.1 hnil).2
    rwa [hnone] at hrest
  have habsent : ∀ c ∈ [arguments i, align i], c ∈ root → o.get? c.key = none := by
    intro c hc hroot
    have hshaped : (shaped? o c).isSome ≠ true := by
      intro hsome
      have hreported := List.flatMap_eq_nil_iff.1 hidle c hc
      rw [if_pos hsome] at hreported
      contradiction
    cases hvalue : o.get? c.key with
    | none => rfl
    | some value =>
        have hshape := (hproper.fits c hroot value hvalue).shape
        exact absurd (by simp [shaped?, hvalue, hshape]) hshaped
  exact ⟨habsent (arguments i) (by simp) (ProperBlock.arguments_mem_root i),
    habsent (align i) (by simp) (by simp [root, slots])⟩

/-! ## What the normal form keeps -/

open NormalForm

theorem renderedAs_ofLabel {label : Json} (hordered : label.Ordered)
    (hplain : PlainImageAt label []) : label.RenderedAs (ofLabel label) := by
  cases label with
  | object o =>
      have hkeys := hplain o rfl
      refine Json.renderedAs_refine (Json.ordered_object.1 hordered).1 ?_ ?_
      · exact fun key hkey => List.contains_iff_mem.2 (hkeys key hkey)
      · intro key value _
        unfold imageValue
        split
        · exact Json.renderedAs_asFloat value
        · exact Json.renderedAs_refl value
  | _ => exact Json.renderedAs_refl _

theorem renderedAs_ofChoice {choice : Json} (hordered : choice.Ordered)
    (hplain : PlainImageAt choice [.index 0]) : choice.RenderedAs (ofChoice choice) := by
  unfold ofChoice
  split
  next label stored =>
    have hlabel : label.Ordered := Json.ordered_list.1 hordered label List.mem_cons_self
    have hlabelKept := renderedAs_ofLabel hlabel (hplain.child rfl)
    have hstored := Json.renderedAs_refl stored
    have hpair : Json.RenderedItems [label, stored] [ofLabel label, stored] := by
      simp only [Json.RenderedItems]
      exact ⟨_, _, rfl, hlabelKept, _, _, rfl, hstored, rfl⟩
    rw [Json.RenderedAs]
    exact ⟨_, rfl, hpair⟩
  next => exact Json.renderedAs_refl choice

theorem renderedAs_argumentValue {kind : ArgumentKind} {key : String} {value : Json}
    (hordered : value.Ordered)
    (hplain : kind = .dropdown → key = "options" →
      ∀ option, PlainImageAt value [.index option, .index 0]) :
    value.RenderedAs (argumentValue kind key value) := by
  cases kind with
  | number =>
      by_cases hkey : key ∈ boundKeys
      · rw [argumentValue, if_pos hkey]
        exact Json.renderedAs_asFloat value
      · rw [argumentValue, if_neg hkey]
        exact Json.renderedAs_refl value
  | dropdown =>
      by_cases hkey : key = "options"
      · rw [argumentValue, if_pos hkey]
        apply Json.renderedAs_mapItems
        rintro items rfl choice hchoice
        obtain ⟨option, hoption⟩ := List.mem_iff_getElem?.1 hchoice
        exact renderedAs_ofChoice (Json.ordered_list.1 hordered choice hchoice)
          ((hplain rfl hkey option).child hoption)
      · rw [argumentValue, if_neg hkey]
        exact Json.renderedAs_refl value
  | _ => exact Json.renderedAs_refl value

theorem renderedAs_ofArgument {mode : Mode} {item : Json} (hordered : item.Ordered)
    (hnil : checkArgument mode item = [])
    (hplain : argumentKind? item = some .dropdown →
      ∀ option, PlainImageAt item [.key "options", .index option, .index 0]) :
    item.RenderedAs (ofArgument item) := by
  unfold ofArgument
  split
  next o kind hkind =>
    unfold knownArgument
    split
    next => exact Json.renderedAs_refl _
    next hform =>
      have hkeys := isArgumentKey_of_checkArgument hkind (by simpa using hform) hnil
      refine Json.renderedAs_refine (Json.ordered_object.1 hordered).1 hkeys ?_
      intro key value hvalue
      apply renderedAs_argumentValue (hordered.of_get? hvalue)
      rintro rfl rfl option
      exact (hplain hkind option).child hvalue
  next => exact Json.renderedAs_refl _

section Blocks

variable {c : Context} {o : Object}

theorem checkSlot_eq_nil (hnil : checkBlock c.atRoot o = []) (i : Fin slotCount) :
    checkSlot c.mode o i = [] := by
  rw [checkBlock_atRoot] at hnil
  exact List.flatMap_eq_nil_iff.1 (List.append_eq_nil_iff.1 hnil).2 i (List.mem_finRange i)

theorem checkArgument_eq_nil (hnil : checkBlock c.atRoot o = []) {i : Fin slotCount} {item : Json}
    (hitem : item ∈ entries i o) : checkArgument c.mode item = [] := by
  have hentries := (List.append_eq_nil_iff.1 (checkSlot_eq_nil hnil i)).1
  rw [checkEntries_root] at hentries
  obtain ⟨position, hposition⟩ := List.mem_iff_getElem?.1 hitem
  have hentry := List.flatMap_eq_nil_iff.1 hentries (item, position)
    (List.mk_mem_zipIdx_iff_getElem?.2 hposition)
  exact List.map_eq_nil_iff.1 hentry

/-- Where nothing is reported, only empty lists of arguments are left out. -/
theorem keeps_of_checkBlock (hproper : ProperBlock o) (hnil : checkBlock c.atRoot o = [])
    {key : String} {value : Json} (hvalue : o.get? key = some value)
    (hempty : value = .list [] → ∀ i, key ≠ argumentsKey i) : keeps o key = true := by
  have hunknown : checkUnknownKeys [] isRootKey o = [] := by
    simp only [checkBlock_atRoot, List.append_eq_nil_iff] at hnil
    exact hnil.1.1.1.1.2
  have hroot : isRootKey key = true :=
    isKnown_of_checkUnknownKeys hunknown key (Object.mem_keys_of_mem (Object.mem_of_get? hvalue))
  have hidle : key ∉ idleKeys o := by
    intro hidle
    obtain ⟨i, ⟨hmessage, hkey⟩ | ⟨hnone, hkey⟩⟩ := mem_idleKeys.1 hidle
    · obtain ⟨harguments, halign⟩ :=
        get?_eq_none_of_checkSlot hproper (checkSlot_eq_nil hnil i) hmessage
      rcases hkey with rfl | rfl
      · rw [harguments] at hvalue
        contradiction
      · rw [halign] at hvalue
        contradiction
    · subst hkey
      rw [hvalue, Option.some.injEq] at hnone
      exact hempty hnone i rfl
  simp [keeps, hroot, hidle]

theorem renderedAs_blockValue (hordered : (Json.object o).Ordered)
    (hnil : checkBlock c.atRoot o = []) (hplain : LabelsPlain (.object o)) {key : String} {value : Json}
    (hvalue : o.get? key = some value) : value.RenderedAs (blockValue key value) := by
  unfold blockValue
  split
  next => exact Json.renderedAs_asFloat value
  next =>
    split
    next hkey =>
      obtain ⟨i, -, rfl⟩ := List.mem_map.1 hkey
      apply Json.renderedAs_mapItems
      rintro items rfl item hitem
      obtain ⟨position, hposition⟩ := List.mem_iff_getElem?.1 hitem
      have hentry : item ∈ entries i o := (entries_of_get? hvalue).symm ▸ hitem
      have hitemOrdered : item.Ordered :=
        Json.ordered_list.1 (hordered.of_get? hvalue) item hitem
      refine renderedAs_ofArgument hitemOrdered (checkArgument_eq_nil hnil hentry) ?_
      intro hkind option
      exact hplain i position option item (by simp [hvalue, hposition]) hkind
    next => exact Json.renderedAs_refl value

theorem keeps_of_labelsPlain (hordered : (Json.object o).Ordered) (hproper : ProperBlock o)
    (hnil : checkBlock c.atRoot o = []) (hplain : LabelsPlain (.object o)) :
    Keeps (.object o) (.object (block o)) := by
  have hkept : ∀ key value, o.get? key = some value →
      (value = .list [] → ∀ i, key ≠ argumentsKey i) →
      ∃ written, (block o).get? key = some written ∧ value.RenderedAs written := by
    intro key value hvalue hempty
    refine ⟨blockValue key value, ?_, renderedAs_blockValue hordered hnil hplain hvalue⟩
    rw [block, Object.get?_refine, if_pos (keeps_of_checkBlock hproper hnil hvalue hempty),
      hvalue, Option.map_some]
  intro path key value hvalue
  cases path with
  | nil =>
      have hget : o.get? key = some value := by simpa using hvalue
      by_cases hempty : value = .list [] ∧ ∃ i, key = argumentsKey i
      · exact .inl ⟨rfl, hempty⟩
      · obtain ⟨written, hwritten, hrendered⟩ :=
          hkept key value hget fun hlist i hkey => hempty ⟨hlist, i, hkey⟩
        exact .inr ⟨written, by simpa using hwritten, hrendered⟩
  | cons segment rest =>
      refine .inr ?_
      obtain ⟨child, hchild, hbelow⟩ := Option.bind_eq_some_iff.1 hvalue
      cases segment with
      | index position => contradiction
      | key first =>
          have hempty : child ≠ .list [] := by
            rintro rfl
            cases rest with
            | nil => contradiction
            | cons segment rest => cases segment <;> simp [Json.child?] at hbelow
          obtain ⟨written, hwritten, hrendered⟩ :=
            hkept first child hchild fun hlist => absurd hlist hempty
          obtain ⟨found, hfound, hresult⟩ := hrendered.at? hbelow
          refine ⟨found, ?_, hresult⟩
          have hfirst : (Json.object (block o)).child? (.key first) = some written := hwritten
          rw [List.cons_append, Json.at?_cons, hfirst, Option.bind_some]
          exact hfound

/-! ## What the normal form drops -/

theorem exists_items_of_at? {key : String} {position : Nat} {item : Json}
    (hitem : (Json.object o).at? [.key key, .index position] = some item) :
    ∃ items, o.get? key = some (.list items) ∧ items[position]? = some item := by
  obtain ⟨value, hvalue, hbelow⟩ := Option.bind_eq_some_iff.1 hitem
  cases value with
  | list items => exact ⟨items, hvalue, by simpa using hbelow⟩
  | _ => contradiction

/-- An entry of a list of arguments is left out with its list or written in
normal form. -/
theorem at?_block_entry {i : Fin slotCount} {position : Nat} {item : Json}
    (hitem : (Json.object o).at? [.key (argumentsKey i), .index position] = some item) :
    (Json.object (block o)).at? [.key (argumentsKey i), .index position] = none ∨
      (Json.object (block o)).at? [.key (argumentsKey i), .index position] =
        some (ofArgument item) := by
  obtain ⟨items, hvalue, hentry⟩ := exists_items_of_at? hitem
  have hget := get?_block_argumentsKey o i
  split at hget
  · refine .inr ?_
    simp [hget, hvalue, Json.mapItems, hentry]
  · exact .inl (by simp [hget])

theorem at?_ofArgument_label {item : Json} {mode : Mode} {option : Nat} {label : Object}
    (hsilent : (checkArgument mode item).hasErrors = false)
    (hkind : argumentKind? item = some .dropdown)
    (hlabel : item.at? [.key "options", .index option, .index 0] = some (.object label)) :
    (ofArgument item).at? [.key "options", .index option, .index 0] =
      some (.object (image label)) := by
  obtain ⟨o, kind, rfl, hproper⟩ := properArgument_of_silent hsilent
  obtain rfl : kind = .dropdown := Option.some.inj (hproper.hasKind.symm.trans hkind)
  have hmem : .mandatory "options" .options [.nonEmpty, .distinctOptions] ∈
      (argument .dropdown).constraints := by
    decide
  obtain ⟨value, hvalue, hfits⟩ := (hproper.meets _ hmem).exists_fits rfl
  change Object.get? o "options" = some value at hvalue
  cases value with
  | list options =>
      have hget : (knownArgument .dropdown o).get? "options" =
          some (.list (options.map ofChoice)) := by
        have hkey : isArgumentKey .dropdown "options" = true := by decide
        rw [get?_knownArgument hkey, hvalue]
        rfl
      have hofArgument : ofArgument (.object o) = .object (knownArgument .dropdown o) := by
        simp [ofArgument, hkind]
      simp only [Json.at?_cons, Json.child?_key, hvalue, Option.bind_some, Json.child?_index,
        Option.bind_eq_some_iff] at hlabel
      obtain ⟨choice, hchoice, part, hpart, heq⟩ := hlabel
      obtain rfl : part = .object label := Option.some.inj heq
      have hread : (Dropdown.Choice.ofJson? choice).isSome :=
        hfits.options options rfl rfl choice (List.mem_of_getElem? hchoice)
      unfold Dropdown.Choice.ofJson? at hread
      split at hread
      next first stored =>
        obtain rfl : first = .object label := Option.some.inj hpart
        simp [hofArgument, hget, hchoice, ofChoice, ofLabel]
      next => contradiction
  | _ => exact absurd hfits.shape (by simp [Constraint.mandatory, Shape.admits, Json.isList])

theorem labelsPlain_of_keeps (hsilent : (checkBlock c.atRoot o).hasErrors = false)
    (hkeeps : Keeps (.object o) (.object (block o))) : LabelsPlain (.object o) := by
  intro i position option item hitem hkind label hlabel key hkey
  obtain ⟨value, hvalue⟩ : ∃ value, Object.get? label key = some value := by
    rw [← Option.ne_none_iff_exists']
    exact fun hnone => Object.get?_eq_none_iff.1 hnone hkey
  -- the key of the label is written below the place of its entry
  let entryPath : Path := [.key (argumentsKey i), .index position]
  let labelPath : Path := [.key "options", .index option, .index 0]
  have hthere : (Json.object o).at? ((entryPath ++ labelPath) ++ [.key key]) = some value := by
    have hitem : (Json.object o).at? entryPath = some item := hitem
    have hlabel : item.at? labelPath = some (.object label) := hlabel
    rw [Json.at?_append, Json.at?_append, hitem, Option.bind_some, hlabel, Option.bind_some]
    simpa using hvalue
  obtain ⟨hnil, -⟩ | ⟨found, hfound, -⟩ := hkeeps _ key value hthere
  · contradiction
  rw [Json.at?_append, Json.at?_append] at hfound
  -- the entry is written in normal form, and so is its label
  have hsilentEntry : (checkArgument c.mode item).hasErrors = false := by
    obtain ⟨items, hvalue, hentry⟩ := exists_items_of_at? hitem
    refine silent_entry_of_silent (silent_slot_of_silent hsilent i) item ?_
    exact (entries_of_get? hvalue).symm ▸ List.mem_of_getElem? hentry
  rcases at?_block_entry hitem with hentry | hentry
  · rw [hentry] at hfound
    contradiction
  · have hlabelWritten := at?_ofArgument_label hsilentEntry hkind hlabel
    rw [hentry, Option.bind_some, hlabelWritten, Option.bind_some] at hfound
    have hget : (image label).get? key = some found := by simpa using hfound
    rw [image, Object.get?_refine] at hget
    by_contra hother
    rw [if_neg (by simpa using hother)] at hget
    contradiction

end Blocks

/-- Where warnings block, an accepted document comes back key by key exactly when
its image labels have the keys of an image only. -/
theorem keeps_iff_labelsPlain {c : Context} {document : Json} {d : Definition}
    (hordered : document.Ordered) (hstrict : c.mode = .strict)
    (haccepted : (validate c document).definition = some d) :
    Keeps document d.toJson ↔ LabelsPlain document := by
  obtain ⟨o, rfl, hproper, hread⟩ := proper_of_accepted haccepted
  have hnil : checkBlock c.atRoot o = [] := checkDocument_eq_nil_of_strict hstrict haccepted
  have hsilent : (checkBlock c.atRoot o).hasErrors = false := by
    rw [hnil]
    rfl
  rw [toJson_definition hordered hproper hread]
  exact ⟨labelsPlain_of_keeps hsilent, keeps_of_labelsPlain hordered hproper hnil⟩

/-- A block with one dropdown, of one option, and an empty list of arguments. -/
def dropdownDocument (label : Object) : Json :=
  .object [
    ("args0", .list [
      .object [
        ("name", .string "SHAPE"),
        ("options", .list [.list [.object label, .string "BOX"]]),
        ("type", .string "field_dropdown")]]),
    ("args1", .list []),
    ("message0", .string "draw %1"),
    ("message1", .string "done"),
    ("type", .string "draw_shape")]

theorem labelsPlain_dropdownDocument {label : Object}
    (hkeys : ∀ key ∈ label.keys, key ∈ imageKeys) : LabelsPlain (dropdownDocument label) := by
  intro i position option item hitem _ found hfound
  obtain ⟨items, hvalue, hentry⟩ := exists_items_of_at? hitem
  simp only [Object.get?_cons, Object.get?_nil] at hvalue
  repeat' split at hvalue
  case isTrue =>
    obtain rfl : [_] = items := by simpa using hvalue
    obtain ⟨rfl, rfl⟩ : position = 0 ∧ _ = item := by
      simpa [List.getElem?_singleton] using hentry
    obtain ⟨rfl, rfl⟩ : option = 0 ∧ label = found := by
      simpa [Object.get?_cons, List.getElem?_singleton, Option.bind_eq_some_iff] using hfound
    exact hkeys
  case isFalse.isTrue =>
    obtain rfl : [] = items := by simpa using hvalue
    contradiction
  all_goals simp at hvalue

theorem keeps_dropdownDocument :
    let label : Object := [("height", .number (.int 2)), ("src", .string "box.png"),
      ("width", .number (.int 3))]
    (dropdownDocument label).Ordered ∧
      ∃ d, (validate ⟨.strict, none, none, []⟩ (dropdownDocument label)).definition = some d ∧
        Keeps (dropdownDocument label) d.toJson := by
  intro label
  have hordered : (dropdownDocument label).Ordered := by
    decide +kernel
  have hsome :
      (validate ⟨.strict, none, none, []⟩ (dropdownDocument label)).definition.isSome := by
    decide +kernel
  have hplain : LabelsPlain (dropdownDocument label) :=
    labelsPlain_dropdownDocument (by decide)
  obtain ⟨d, haccepted⟩ := Option.isSome_iff_exists.1 hsome
  exact ⟨hordered, d, haccepted, (keeps_iff_labelsPlain hordered rfl haccepted).2 hplain⟩

/-- The title of an image is accepted in silence and lost. -/
theorem not_keeps_dropdownDocument :
    let label : Object := [("height", .number (.int 2)), ("src", .string "box.png"),
      ("title", .string "a box"), ("width", .number (.int 3))]
    let report := validate ⟨.strict, none, none, []⟩ (dropdownDocument label)
    (dropdownDocument label).Ordered ∧ report.violations = [] ∧
      ∃ d, report.definition = some d ∧ ¬Keeps (dropdownDocument label) d.toJson := by
  intro label report
  have hordered : (dropdownDocument label).Ordered := by
    decide +kernel
  have hsilent : report.violations = [] := by
    decide +kernel
  have hsome : report.definition.isSome := by
    decide +kernel
  obtain ⟨d, haccepted⟩ := Option.isSome_iff_exists.1 hsome
  refine ⟨hordered, hsilent, d, haccepted, fun hkeeps => ?_⟩
  let above : Path := [.key "args0", .index 0, .key "options", .index 0, .index 0]
  have hthere : (dropdownDocument label).at? (above ++ [.key "title"]) =
      some (.string "a box") := by
    decide +kernel
  have hwritten : report.definition.map (fun d => d.toJson.at? (above ++ [.key "title"])) =
      some none := by
    decide +kernel
  have hlost : d.toJson.at? (above ++ [.key "title"]) = none := by
    rw [haccepted] at hwritten
    exact Option.some.inj hwritten
  rcases hkeeps above "title" _ hthere with ⟨hroot, -⟩ | ⟨found, hfound, -⟩
  · exact List.cons_ne_nil _ _ hroot
  · exact Option.some_ne_none found (hfound.symm.trans hlost)

end Validation

end EditorBlocks
