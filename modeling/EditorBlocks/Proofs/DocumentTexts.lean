import EditorBlocks.Proofs.Located
import EditorBlocks.Proofs.QuotedText

/-!
# Reports quote their document

The texts that violations quote are keys and strings of the document, besides words
of the library that are plain.  So whatever is not plain on the line of a violation
can be found in the document, or on the path under which it is validated.
-/

namespace EditorBlocks

open Text

/-! ## The texts of a document -/

namespace Json

mutual

/-- The keys and the strings in a value, at any depth. -/
def texts : Json → List String
  | .string s => [s]
  | .list items => itemTexts items
  | .object members => memberTexts members
  | .null | .bool _ | .number _ => []

def itemTexts : List Json → List String
  | [] => []
  | item :: rest => texts item ++ itemTexts rest

def memberTexts : List (String × Json) → List String
  | [] => []
  | (key, value) :: rest => key :: texts value ++ memberTexts rest

end

theorem itemTexts_eq_flatMap (items : List Json) : itemTexts items = items.flatMap texts := by
  induction items with
  | nil => rfl
  | cons item rest ih => rw [itemTexts, ih, List.flatMap_cons]

theorem memberTexts_eq_flatMap (o : Object) :
    memberTexts o = o.flatMap fun m => m.1 :: m.2.texts := by
  induction o with
  | nil => rfl
  | cons m rest ih => rw [memberTexts, ih, List.flatMap_cons]

theorem texts_item {items : List Json} {item : Json} (hmem : item ∈ items) :
    item.texts ⊆ (Json.list items).texts := by
  intro s hs
  rw [texts, itemTexts_eq_flatMap]
  exact List.mem_flatMap.2 ⟨item, hmem, hs⟩

theorem texts_member {o : Object} {m : String × Json} (hmem : m ∈ o) :
    m.1 :: m.2.texts ⊆ (Json.object o).texts := by
  intro s hs
  rw [texts, memberTexts_eq_flatMap]
  exact List.mem_flatMap.2 ⟨m, hmem, hs⟩

/-- What is not plain in the texts of a value. -/
def foreign (value : Json) : List Char := value.texts.flatMap Text.foreign

theorem foreign_mono {value document : Json} (htexts : value.texts ⊆ document.texts) :
    value.foreign ⊆ document.foreign := by
  intro c hc
  obtain ⟨s, hs, hc⟩ := List.mem_flatMap.1 hc
  exact List.mem_flatMap.2 ⟨s, htexts hs, hc⟩

theorem foreign_text {value : Json} {s : String} (hs : s ∈ value.texts) :
    Text.foreign s ⊆ value.foreign :=
  fun _ hc => List.mem_flatMap.2 ⟨s, hs, hc⟩

theorem foreign_string (s : String) : (Json.string s).foreign = Text.foreign s := by
  rw [foreign, texts, List.flatMap_singleton]

theorem foreign_string? {value : Json} {s : String} (hs : value.string? = some s) :
    Text.foreign s ⊆ value.foreign := by
  rw [eq_of_string? hs, foreign_string]
  exact List.Subset.refl _

theorem foreign_item {items : List Json} {item : Json} (hmem : item ∈ items) :
    item.foreign ⊆ (Json.list items).foreign :=
  foreign_mono (texts_item hmem)

theorem foreign_get? {o : Object} {key : String} {value : Json}
    (hvalue : o.get? key = some value) : value.foreign ⊆ (Json.object o).foreign :=
  foreign_mono (List.cons_subset.1 (texts_member (Object.mem_of_get? hvalue))).2

theorem foreign_key {o : Object} {key : String} (hkey : key ∈ o.keys) :
    Text.foreign key ⊆ (Json.object o).foreign := by
  obtain ⟨m, hm, rfl⟩ := List.mem_map.1 hkey
  exact foreign_text (List.cons_subset.1 (texts_member hm)).1

theorem foreign_mapM_string? {items : List Json} {names : List String}
    (hread : items.mapM string? = some names) :
    names.flatMap Text.foreign = (Json.list items).foreign := by
  have hitems : items = names.map Json.string := by
    have hsame : names.map Json.string = items.map id := by
      apply map_of_mapM hread
      intro item _ s hs
      exact (eq_of_string? hs).symm
    rw [hsame, List.map_id]
  have htexts : itemTexts (names.map Json.string) = names := by
    rw [itemTexts_eq_flatMap, List.flatMap_map]
    simp only [texts]
    exact List.flatMap_singleton' names
  rw [foreign, texts, hitems, htexts]

end Json

theorem ConnectionCheck.foreign_text {value : Json} {check : ConnectionCheck}
    (hread : ofJson? value = some check) : Text.foreign check.text ⊆ value.foreign := by
  cases value with
  | null =>
      obtain rfl := Option.some.inj hread
      have hany : Text.foreign "any" = [] := rfl
      rw [ConnectionCheck.text, hany]
      exact List.nil_subset _
  | string s =>
      obtain rfl := Option.some.inj hread
      rw [Json.foreign_string]
      exact List.Subset.refl _
  | list items =>
      obtain ⟨names, hnames, rfl⟩ := Option.map_eq_some_iff.1 hread
      have hmark : Text.foreign " | " = [] := rfl
      rw [ConnectionCheck.text, foreign_intercalate hmark, Json.foreign_mapM_string? hnames]
      exact List.Subset.refl _
  | bool | number | object => contradiction

/-! ## Quoting a value -/

/-- The violation reports a finding, and what it quotes stands in the value. -/
def Violation.Quotes (v : Violation) (value : Json) : Prop :=
  ∃ f path, v = Validation.Finding.violation f path ∧
    (Path.names path ++ f.texts).flatMap Text.foreign ⊆ value.foreign

namespace Violations

def Quote (vs : Violations) (value : Json) : Prop := ∀ v ∈ vs, v.Quotes value

section

variable {vs ws : Violations} {value : Json}

@[simp]
theorem quote_nil : Quote [] value := fun _ hv => absurd hv List.not_mem_nil

theorem quote_append (hvs : vs.Quote value) (hws : ws.Quote value) : Quote (vs ++ ws) value :=
  List.forall_mem_append.2 ⟨hvs, hws⟩

theorem quote_flatMap {α : Type} {xs : List α} {f : α → Violations}
    (heach : ∀ x ∈ xs, (f x).Quote value) : Quote (xs.flatMap f) value := by
  intro v hv
  obtain ⟨x, hx, hv⟩ := List.mem_flatMap.1 hv
  exact heach x hx v hv

theorem Quote.under {document : Json} {above : Path}
    (hplain : (Path.names above).flatMap Text.foreign = [])
    (hpart : value.foreign ⊆ document.foreign) (hquote : vs.Quote value) :
    (vs.under above).Quote document := by
  intro v hv
  obtain ⟨below, hbelow, rfl⟩ := List.mem_map.1 hv
  obtain ⟨f, path, rfl, hquoted⟩ := hquote below hbelow
  refine ⟨f, above ++ path, rfl, ?_⟩
  rw [Path.names_append, List.append_assoc, List.flatMap_append, hplain, List.nil_append]
  exact List.Subset.trans hquoted hpart

end

end Violations

namespace Validation

open Schema Violations

section Findings

variable {f : Finding} {path : Path} {value : Json}

theorem quote_finding
    (hquoted : (Path.names path ++ f.texts).flatMap Text.foreign ⊆ value.foreign) :
    Quote [f.violation path] value :=
  fun _ hv => List.mem_singleton.1 hv ▸ ⟨f, path, rfl, hquoted⟩

theorem quote_plain (hplain : (Path.names path ++ f.texts).flatMap Text.foreign = []) :
    Quote [f.violation path] value :=
  quote_finding (hplain ▸ List.nil_subset _)

theorem quote_if {p : Prop} [Decidable p] (hquote : Quote [f.violation path] value) :
    Quote (if p then [f.violation path] else []) value := by
  split
  · exact hquote
  · exact quote_nil

end Findings

/-! ## The words of the tables -/

/-- The words that a rule lists. -/
def Rule.words : Rule → List String
  | .oneOf names => names
  | _ => []

/-- The key of a constraint and the words of its rules are plain. -/
def PlainWords (c : Constraint) : Prop :=
  foreign c.key = [] ∧ ∀ rule ∈ c.rules, (Rule.words rule).flatMap foreign = []

instance (c : Constraint) : Decidable (PlainWords c) :=
  inferInstanceAs (Decidable (_ ∧ _))

theorem plainWords_of_mem_root {c : Constraint} (hc : c ∈ root) : PlainWords c := by
  have hall : ∀ c ∈ root, PlainWords c := by decide +kernel
  exact hall c hc

theorem plainWords_of_mem_rootConstraints {o : Object} {c : Constraint}
    (hc : c ∈ rootConstraints o) : PlainWords c := by
  unfold rootConstraints at hc
  split at hc
  next => exact plainWords_of_mem_root hc
  next =>
    obtain ⟨listed, hlisted, rfl⟩ := List.mem_map.1 hc
    have hwords := plainWords_of_mem_root hlisted
    split
    · exact hwords
    · exact hwords

theorem plainWords_of_mem_argument {kind : ArgumentKind} {c : Constraint}
    (hc : c ∈ (argument kind).constraints) : PlainWords c := by
  have hall : ∀ c ∈ (argument kind).constraints, PlainWords c := by
    cases kind with
    | freeForm | input =>
        simp only [argument]
        decide +kernel
    | _ => decide +kernel
  exact hall c hc

theorem foreign_numbered {word : String} (hword : foreign word = []) (n : Nat) :
    foreign (word ++ toString n) = [] := by
  rw [foreign_append, hword, foreign_toString, List.append_nil]

theorem foreign_messageKey (i : Fin slotCount) : foreign (messageKey i) = [] :=
  foreign_numbered rfl i.val

theorem foreign_argumentsKey (i : Fin slotCount) : foreign (argumentsKey i) = [] :=
  foreign_numbered rfl i.val

theorem foreign_alignKey (i : Fin slotCount) : foreign (alignKey i) = [] :=
  foreign_numbered rfl i.val

/-! ## The checks of one key -/

section Keys

variable {mode : Mode} {o : Object}

theorem quote_checkOptions (options : List Json) :
    (checkOptions mode options).Quote (.list options) := by
  apply quote_flatMap
  rintro ⟨option, position⟩ -
  apply quote_append
  · exact quote_if (quote_plain rfl)
  · split
    · cases earlier? (options.map optionValue?) position with
      | none => exact quote_nil
      | some first => exact quote_plain rfl
    · exact quote_nil

theorem quote_checkListed {key : String} {names : List String} (hkey : foreign key = [])
    (hnames : names.flatMap foreign = []) (s : String) :
    (checkListed [] key names s).Quote (.string s) := by
  unfold checkListed
  split
  · exact quote_nil
  · apply quote_finding
    change (s :: key :: names).flatMap foreign ⊆ _
    rw [List.flatMap_cons, List.flatMap_cons, hkey, hnames, Json.foreign_string]
    simp

theorem quote_checkDistinctTypes {key : String} (hkey : foreign key = []) (items : List Json)
    {value : Json} : (checkDistinctTypes [] key items).Quote value := by
  apply quote_append
  · exact quote_if (quote_plain (by simpa [Finding.texts, Path.names] using hkey))
  · intro v hv
    obtain ⟨⟨position, first⟩, -, rfl⟩ := List.mem_map.1 hv
    exact quote_plain rfl _ List.mem_cons_self

theorem quote_checkRule {key : String} {rule : Rule} (hkey : foreign key = [])
    (hrule : (Rule.words rule).flatMap foreign = []) (value : Json) :
    (checkRule mode key value rule).Quote value := by
  have hplain : (Path.names [] ++ [key]).flatMap foreign = [] := by
    simpa [Path.names] using hkey
  unfold checkRule
  split
  next names s => exact quote_checkListed hkey hrule s
  next =>
    split
    · exact quote_nil
    · split
      next items => exact quote_if (quote_plain hplain)
      next n => exact quote_if (quote_plain hplain)
      next n =>
        split
        · exact quote_nil
        · exact quote_plain rfl
      next items _ => exact quote_checkDistinctTypes hkey items
      next => exact quote_nil

theorem quote_checkValue {c : Constraint} (hwords : PlainWords c) (value : Json) :
    (checkValue mode c value).Quote value := by
  unfold checkValue
  split
  · exact quote_plain (by simpa [Finding.texts, Path.names] using hwords.1)
  · apply quote_append
    · split
      · exact quote_checkOptions _
      · exact quote_nil
    · exact quote_flatMap fun rule hrule =>
        quote_checkRule hwords.1 (hwords.2 rule hrule) value

theorem quote_checkConstraint {c : Constraint} (hwords : PlainWords c) :
    (checkConstraint mode o c).Quote (.object o) := by
  have hkey : (Path.names [.key c.key]).flatMap foreign = [] := by
    simpa [Path.names] using hwords.1
  rw [checkConstraint_root]
  split
  next hnone =>
    apply quote_if
    apply quote_plain
    rw [List.flatMap_append, hkey]
    simpa [Finding.texts] using hwords.1
  next value hvalue =>
    exact (quote_checkValue hwords value).under hkey (Json.foreign_get? hvalue)

theorem quote_checkConstraints {constraints : List Constraint}
    (hwords : ∀ c ∈ constraints, PlainWords c) :
    (checkConstraints mode o constraints).Quote (.object o) :=
  quote_flatMap fun c hc => quote_checkConstraint (hwords c hc)

theorem quote_checkUnknownKeys (isKnown : String → Bool) :
    (checkUnknownKeys [] isKnown o).Quote (.object o) := by
  intro v hv
  obtain ⟨key, hkey, rfl⟩ := List.mem_map.1 hv
  have hthere := Json.foreign_key (List.mem_filter.1 hkey).1
  refine ⟨.unknownKey key, [.key key], rfl, ?_⟩
  change [key, key].flatMap foreign ⊆ _
  simpa using hthere

end Keys

/-! ## Arguments -/

section Arguments

variable {mode : Mode} {o : Object}

theorem quote_checkDefaultType : (checkDefaultType [] o).Quote (.object o) := by
  unfold checkDefaultType
  split
  next type types htype htypes =>
    obtain ⟨value, hvalue, hstring⟩ := Option.bind_eq_some_iff.1 htype
    obtain ⟨check, hcheck, hread⟩ := Option.bind_eq_some_iff.1 htypes
    have hkey : foreign "defaultType" = [] := rfl
    have hdefault := List.Subset.trans (Json.foreign_string? hstring) (Json.foreign_get? hvalue)
    have hlisted :=
      List.Subset.trans (ConnectionCheck.foreign_text hread) (Json.foreign_get? hcheck)
    split
    · exact quote_nil
    · apply quote_finding
      change ["defaultType", type, types.text].flatMap foreign ⊆ _
      simp [hkey, hdefault, hlisted]
  next => exact quote_nil

theorem quote_checkJointRule (rule : JointRule) :
    (checkJointRule [] o rule).Quote (.object o) := by
  cases rule with
  | orderedBounds =>
      simp only [checkJointRule, checkOrderedBounds]
      split
      · exact quote_if (quote_plain rfl)
      · exact quote_nil
  | valueInBounds =>
      simp only [checkJointRule, checkValueInBounds]
      split
      · exact quote_nil
      · apply quote_append
        · split
          · exact quote_if (quote_plain rfl)
          · exact quote_nil
        · split
          · exact quote_if (quote_plain rfl)
          · exact quote_nil
  | defaultTypeListed => exact quote_checkDefaultType

theorem quote_unknownKind (o : Object) :
    Quote [(unknownKind o).violation [.key argumentType.key]] (.object o) := by
  have hkey : foreign argumentType.key = [] := rfl
  have hpath : (Path.names [.key argumentType.key] ++ []).flatMap foreign = [] := by
    simpa [Path.names] using hkey
  unfold unknownKind
  split
  next => exact quote_plain hpath
  next name hname =>
    have hquoted := Json.foreign_get? hname
    rw [Json.foreign_string] at hquoted
    apply quote_finding
    change [argumentType.key, name].flatMap foreign ⊆ _
    simp [hkey, hquoted]
  next => exact quote_plain hpath

theorem quote_checkArgument (item : Json) : (checkArgument mode item).Quote item := by
  have hname : PlainWords argumentName := by decide +kernel
  cases item with
  | object o =>
      simp only [checkArgument]
      split
      next kind _ =>
        apply quote_append
        · apply quote_append (quote_checkConstraints fun c hc => plainWords_of_mem_argument hc)
          split
          · exact quote_nil
          · exact quote_checkUnknownKeys _
        · split
          · exact quote_flatMap fun rule _ => quote_checkJointRule rule
          · exact quote_nil
      next =>
        exact quote_append (quote_unknownKind o) (quote_checkConstraint hname)
  | null | bool | number | string | list =>
      rw [checkArgument]
      · exact quote_plain rfl
      · intro o hobject
        contradiction

end Arguments

/-! ## Slots -/

section Slots

variable {mode : Mode} {o : Object} {i : Fin slotCount}

theorem foreign_of_mem_entries {item : Json} (hitem : item ∈ entries i o) :
    item.foreign ⊆ (Json.object o).foreign := by
  obtain ⟨items, hvalue, hmem⟩ := exists_list_of_mem_entries hitem
  exact List.Subset.trans (Json.foreign_item hmem) (Json.foreign_get? hvalue)

theorem foreign_of_argumentName? {item : Json} {name : String}
    (hname : argumentName? item = some name) : foreign name ⊆ item.foreign := by
  simp only [argumentName?, Option.bind_eq_bind, Option.bind_eq_some_iff] at hname
  obtain ⟨members, hobject, value, hvalue, hstring⟩ := hname
  cases item with
  | object found =>
      obtain rfl := Option.some.inj hobject
      exact List.Subset.trans (Json.foreign_string? hstring) (Json.foreign_get? hvalue)
  | _ => contradiction

/-- The name of an entry is a text of the block. -/
theorem foreign_of_entryName {position : Nat} {name : String}
    (hname : ((entries i o).map argumentName?)[position]? = some (some name)) :
    foreign name ⊆ (Json.object o).foreign := by
  rw [List.getElem?_map] at hname
  obtain ⟨item, hitem, hnamed⟩ := Option.map_eq_some_iff.1 hname
  exact List.Subset.trans (foreign_of_argumentName? hnamed)
    (foreign_of_mem_entries (List.mem_of_getElem? hitem))

theorem quote_checkEntries : (checkEntries mode i (entries i o)).Quote (.object o) := by
  have hkey : (Path.names [.key (argumentsKey i), .index 0]).flatMap foreign = [] := by
    simpa [Path.names] using foreign_argumentsKey i
  rw [checkEntries_root]
  apply quote_flatMap
  rintro ⟨item, position⟩ hentry
  have hitem := List.mem_of_getElem? (List.mk_mem_zipIdx_iff_getElem?.1 hentry)
  exact (quote_checkArgument item).under hkey (foreign_of_mem_entries hitem)

theorem quote_checkNames :
    (checkNames [] i ((entries i o).map argumentName?)).Quote (.object o) := by
  have hkey : foreign argumentName.key = [] := rfl
  intro v hv
  obtain ⟨⟨position, first⟩, hrepeat, rfl⟩ := List.mem_map.1 hv
  obtain ⟨name, hname⟩ := exists_entry_of_mem_repeats hrepeat
  refine quote_finding ?_ _ List.mem_cons_self
  change [argumentsKey i, argumentName.key, _].flatMap foreign ⊆ _
  rw [hname]
  simpa [foreign_argumentsKey, hkey] using foreign_of_entryName hname

/-- The digits of a placeholder are digits, however many there are. -/
theorem foreign_of_mem_references {message written : String} {n : Nat}
    (hmem : (n, written) ∈ references (Template.tokenize message)) : foreign written = [] := by
  obtain ⟨token, htoken, hreference⟩ := List.mem_filterMap.1 hmem
  cases token with
  | text | escape => contradiction
  | placeholder number =>
      obtain ⟨-, rfl⟩ := Prod.mk.inj (Option.some.inj hreference)
      exact foreign_toString number
  | oversized digits =>
      obtain ⟨-, rfl⟩ := Prod.mk.inj (Option.some.inj hreference)
      have hreading := (Template.readsOn message.toList).text [] .nil
      obtain ⟨hdigits, -⟩ := hreading.canonical.proper _ htoken
      exact foreign_of_plain (List.all_eq_true.2 fun c hc => isPlain_of_isDigit (hdigits.digit c hc))

theorem quote_checkReferences {count : Nat} {before : List Nat} {refs : List (Nat × String)}
    (hwritten : ∀ reference ∈ refs, foreign reference.2 = []) :
    (checkReferences i count before refs).Quote (.object o) := by
  have hpath : Path.names [.key (messageKey i)] = [messageKey i] := rfl
  induction refs generalizing before with
  | nil => exact quote_nil
  | cons reference rest ih =>
      obtain ⟨hfirst, hrest⟩ := List.forall_mem_cons.1 hwritten
      apply quote_append _ (ih hrest)
      simp only [checkReference]
      split
      · apply quote_plain
        simp [hpath, Finding.texts, hfirst, foreign_messageKey, foreign_argumentsKey]
      · apply quote_if
        apply quote_plain
        simp [hpath, Finding.texts, foreign_messageKey]

theorem quote_checkReferenced {numbers : List Nat} {position : Nat} {name : Option String}
    (hname : ((entries i o).map argumentName?)[position]? = some name) :
    (checkReferenced i numbers position name).Quote (.object o) := by
  unfold checkReferenced
  split
  · exact quote_nil
  · apply quote_finding
    change (argumentsKey i :: (name.toList ++ [messageKey i])).flatMap foreign ⊆ _
    cases name with
    | none => simp [foreign_argumentsKey, foreign_messageKey]
    | some name =>
        simpa [foreign_argumentsKey, foreign_messageKey] using foreign_of_entryName hname

theorem quote_checkPlaceholders {message : String} :
    (checkPlaceholders [] i (Template.tokenize message)
      ((entries i o).map argumentName?)).Quote (.object o) := by
  rw [checkPlaceholders_eq_references]
  apply quote_append
  · exact quote_checkReferences fun reference hmem => foreign_of_mem_references hmem
  · apply quote_flatMap
    rintro ⟨name, position⟩ hentry
    exact quote_checkReferenced (List.mk_mem_zipIdx_iff_getElem?.1 hentry)

theorem quote_checkAlign {tokens : List Template.Token} {kinds : List (Option ArgumentKind)} :
    (checkAlign [] i o tokens kinds).Quote (.object o) := by
  apply quote_if
  apply quote_plain
  change [alignKey i, alignKey i, messageKey i].flatMap foreign = []
  simp [foreign_alignKey, foreign_messageKey]

theorem quote_checkIdle : (checkIdle [] i o).Quote (.object o) := by
  have hkeys : ∀ c ∈ [arguments i, align i], foreign c.key = [] := by
    simp only [List.forall_mem_cons, List.not_mem_nil, false_implies, implies_true, and_true]
    exact ⟨foreign_argumentsKey i, foreign_alignKey i⟩
  apply quote_flatMap
  intro c hc
  apply quote_if
  apply quote_plain
  change [c.key, c.key, messageKey i].flatMap foreign = []
  simp [hkeys c hc, foreign_messageKey]

theorem quote_checkSlot : (checkSlot mode o i).Quote (.object o) := by
  unfold checkSlot
  apply quote_append quote_checkEntries
  split
  next => exact quote_checkIdle
  next message _ =>
    split
    · exact quote_append (quote_append quote_checkNames quote_checkPlaceholders) quote_checkAlign
    · exact quote_nil

end Slots

/-! ## Blocks -/

section Blocks

variable {o : Object}

theorem quote_checkRegistered {what name : String} {registry : Option Registry} {path : Path}
    {value : Json} (hwhat : foreign what = []) (hpath : (Path.names path).flatMap foreign = [])
    (hname : foreign name ⊆ value.foreign) :
    (checkRegistered what registry path name).Quote value := by
  unfold checkRegistered
  split
  · exact quote_nil
  · apply quote_finding
    rw [List.flatMap_append, hpath, List.nil_append]
    simpa [Finding.texts, hwhat] using hname

theorem quote_checkExtensions (registry : Option Registry) :
    (checkExtensions [] registry o).Quote (.object o) := by
  have hwhat : foreign "extension" = [] := rfl
  have hkey : foreign "extensions" = [] := rfl
  unfold checkExtensions
  split
  next => exact quote_nil
  next names hnames =>
    obtain ⟨value, hvalue, hstrings⟩ := Option.bind_eq_some_iff.1 hnames
    obtain ⟨items, hitems, hread⟩ := Option.bind_eq_some_iff.1 hstrings
    have hthere := Json.foreign_get? (get?_of_rootValue? hvalue)
    rw [Json.eq_of_list? hitems, ← Json.foreign_mapM_string? hread] at hthere
    apply quote_flatMap
    rintro ⟨name, position⟩ hentry
    have hmem := List.mem_of_getElem? (List.mk_mem_zipIdx_iff_getElem?.1 hentry)
    refine quote_checkRegistered hwhat (by simpa [Path.names] using hkey) ?_
    exact fun c hc => hthere (List.mem_flatMap.2 ⟨name, hmem, hc⟩)

theorem quote_checkMutator (registry : Option Registry) :
    (checkMutator [] registry o).Quote (.object o) := by
  have hword : foreign "mutator" = [] := rfl
  unfold checkMutator
  split
  next => exact quote_nil
  next name hname =>
    obtain ⟨value, hvalue, hstring⟩ := Option.bind_eq_some_iff.1 hname
    refine quote_checkRegistered hword (by simpa [Path.names] using hword) ?_
    exact List.Subset.trans (Json.foreign_string? hstring)
      (Json.foreign_get? (get?_of_rootValue? hvalue))

theorem quote_checkBlock (c : Context) : (checkBlock c.atRoot o).Quote (.object o) := by
  have hvariant : (checkVariant [] o).Quote (.object o) :=
    quote_if (quote_plain rfl)
  have hcolours : (checkColours c.mode o).Quote (.object o) := quote_if (quote_plain rfl)
  have hslots : Quote (slots.flatMap (checkSlot c.mode o)) (.object o) :=
    quote_flatMap fun i _ => quote_checkSlot
  have hconstraints : (checkConstraints c.mode o (rootConstraints o)).Quote (.object o) :=
    quote_checkConstraints fun c hc => plainWords_of_mem_rootConstraints hc
  rw [checkBlock_atRoot]
  refine quote_append ?_ hslots
  refine quote_append ?_ (quote_checkMutator c.mutators)
  refine quote_append ?_ (quote_checkExtensions c.extensions)
  refine quote_append ?_ hcolours
  refine quote_append ?_ (quote_checkUnknownKeys isRootKey)
  exact quote_append hvariant hconstraints

theorem quote_checkDocument (c : Context) (document : Json) :
    (checkDocument c.atRoot document).Quote document := by
  cases document with
  | object o => exact quote_checkBlock c
  | null | bool | number | string | list =>
      rw [checkDocument]
      · exact quote_plain rfl
      · intro o hobject
        contradiction

end Blocks

end Validation

end EditorBlocks
