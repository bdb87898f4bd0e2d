import EditorBlocks.Proofs.NumberFields
import EditorBlocks.Proofs.Provenance

/-!
# What an accepted definition guarantees

The rules are checked on the keys of a document.  Here they are said again of
the definition that comes out, with no document in sight: the bounds of number
fields are in order, options differ, default types are accepted, colours are on
the wheel and only registered names occur.  In the strict mode no check is idle
either.
-/

namespace EditorBlocks

open Schema Validation Violations

namespace Validation

section Arguments

variable {mode : Mode} {o : Object} {kind : ArgumentKind}

theorem optionValue?_of_ofJson? {item : Json} {choice : Dropdown.Choice}
    (hread : Dropdown.Choice.ofJson? item = some choice) :
    some choice.value = optionValue? item := by
  unfold Dropdown.Choice.ofJson? at hread
  split at hread
  next label value =>
    simp only [Option.bind_eq_bind, Option.bind_eq_some_iff, Option.some.injEq] at hread
    obtain ⟨label, -, stored, hstored, rfl⟩ := hread
    exact hstored.symm
  next => contradiction

theorem options_of_silent {options : List Dropdown.Choice} (hrules : mode.checksRules = true)
    (hkind : argumentKind? (.object o) = some .dropdown)
    (hsilent : (checkArgument mode (.object o)).hasErrors = false)
    (hread : FieldContent.ofObject? o .dropdown = some (.dropdown options)) :
    options ≠ [] ∧ (options.map Dropdown.Choice.value).Nodup := by
  simp only [FieldContent.ofObject?, Option.bind_eq_bind, Option.bind_eq_some_iff,
    Option.some.injEq, FieldContent.dropdown.injEq] at hread
  obtain ⟨value, hvalue, items, hitems, choices, hchoices, rfl⟩ := hread
  cases value with
  | list found =>
      obtain rfl : found = items := Option.some.inj hitems
      have hconstraint := silent_constraint hkind hsilent
        (c := .mandatory "options" .options [.nonEmpty, .distinctOptions])
        (by simp [argument, field])
      have hstored : choices.map (fun choice => some choice.value) =
          found.map optionValue? :=
        map_of_mapM hchoices fun _ _ _ hread => optionValue?_of_ofJson? hread
      constructor
      · have hrule := silent_rule hconstraint hvalue .nonEmpty
          (by simp [Constraint.mandatory])
        have hne : found ≠ [] := ne_nil_of_nonEmpty hrules hrule
        rintro rfl
        rw [List.map_nil, eq_comm, List.map_eq_nil_iff] at hstored
        exact hne hstored
      · have hoptions := silent_options hconstraint rfl hvalue
        have hnodup := nodup_of_silent_checkOptions hrules hoptions
        rw [← hstored] at hnodup
        simpa [List.filterMap_map, Function.comp_def] using hnodup
  | _ => contradiction

theorem accepts_of_silent {name defaultType : String} {types : ConnectionCheck}
    (hrules : mode.checksRules = true)
    (hkind : argumentKind? (.object o) = some .variable)
    (hsilent : (checkArgument mode (.object o)).hasErrors = false)
    (hread : FieldContent.ofObject? o .variable = some (.variable name types defaultType)) :
    types.accepts defaultType = true := by
  simp only [FieldContent.ofObject?, Option.bind_eq_bind, Option.bind_eq_some_iff,
    Option.some.injEq, FieldContent.variable.injEq] at hread
  obtain ⟨-, -, -, -, typesValue, htypesValue, types, htypes, defaultValue, hdefaultValue,
    default, hdefault, -, rfl, rfl⟩ := hread
  have hlisted := silent_jointRule hrules hkind hsilent .defaultTypeListed
    (by simp [argument, field])
  simp only [checkJointRule, checkDefaultType, hdefaultValue, htypesValue, Option.bind_some,
    hdefault, htypes] at hlisted
  rw [← ite_not] at hlisted
  exact not_not.1 (not_of_silent rfl hlisted)

end Arguments

end Validation

/-! ## Connection checks -/

/-- A list of types names one, and none twice. -/
def ConnectionCheck.Distinct : ConnectionCheck → Prop
  | .anyOf names => names ≠ [] ∧ names.Nodup
  | .any | .single _ => True

def Connections.checks : Connections → List ConnectionCheck
  | .value output => [output]
  | .statement previous next => previous.toList ++ next.toList

def Argument.checks : Argument → List ConnectionCheck
  | .field _ _ (.variable _ types _) => [types]
  | .field .. => []
  | .input _ _ check => check.toList

/-- Every check in a definition: those of the block, of inputs and of variables. -/
def Definition.checks (d : Definition) : List ConnectionCheck :=
  d.connections.checks ++ d.arguments.flatMap Argument.checks

theorem Connections.exists_constraint {kind : Variant} {o : Object} {connections : Connections}
    (hread : ofObject? kind o = some connections) {check : ConnectionCheck}
    (hmem : check ∈ connections.checks) :
    ∃ c ∈ root, .distinctTypes ∈ c.rules ∧
      (o.get? c.key).bind ConnectionCheck.ofJson? = some check := by
  cases kind with
  | value =>
      simp only [ofObject?, Option.map_eq_some_iff] at hread
      obtain ⟨output, hvalue, rfl⟩ := hread
      obtain rfl : check = output := List.mem_singleton.1 hmem
      exact ⟨.mandatory "output" .connectionCheck [.distinctTypes],
        by simp [root, valueBlock], by simp [Constraint.mandatory], hvalue⟩
  | statement =>
      simp only [ofObject?, Option.some.injEq] at hread
      subst hread
      simp only [checks, List.mem_append, Option.mem_toList] at hmem
      rcases hmem with hprevious | hnext
      · exact ⟨.optional "previousStatement" .connectionCheck [.distinctTypes],
          by simp [root, statementBlock], by simp [Constraint.optional], hprevious⟩
      · exact ⟨.optional "nextStatement" .connectionCheck [.distinctTypes],
          by simp [root, statementBlock], by simp [Constraint.optional], hnext⟩

theorem Argument.exists_constraint {o : Object} {a : Argument} (hcontent : a.ContentOf o)
    {check : ConnectionCheck} (hmem : check ∈ a.checks) :
    ∃ c ∈ (argument a.kind).constraints, .distinctTypes ∈ c.rules ∧
      (o.get? c.key).bind ConnectionCheck.ofJson? = some check := by
  cases a with
  | input name kind found =>
      simp only [checks, Option.mem_toList] at hmem
      refine ⟨.optional "check" .connectionCheck [.distinctTypes],
        by simp [Argument.kind, argument], by simp [Constraint.optional], ?_⟩
      exact hcontent.trans hmem
  | field name colour content =>
      cases content with
      | «variable» name types defaultType =>
          obtain rfl : check = types := List.mem_singleton.1 hmem
          refine ⟨.mandatory "variableTypes" .connectionCheck [.distinctTypes],
            by simp [Argument.kind, FieldContent.kind, argument, Schema.field],
            by simp [Constraint.mandatory], ?_⟩
          simp only [ContentOf, FieldContent.kind, FieldContent.ofObject?,
            Option.bind_eq_bind, Option.bind_eq_some_iff, Option.some.injEq,
            FieldContent.variable.injEq] at hcontent
          obtain ⟨-, -, -, -, value, hvalue, found, hfound, -, -, -, -, -, rfl, -⟩ := hcontent
          simp [Constraint.mandatory, hvalue, hfound]
      | _ => exact absurd hmem List.not_mem_nil

namespace Validation

theorem distinct_of_checkConstraint {mode : Mode} {o : Object} {c : Constraint}
    {check : ConnectionCheck} (hrules : mode.checksRules = true)
    (hrule : .distinctTypes ∈ c.rules) (hnone : checkConstraint mode o c = [])
    (hread : (o.get? c.key).bind ConnectionCheck.ofJson? = some check) :
    check.Distinct := by
  obtain ⟨value, hvalue, hcheck⟩ := Option.bind_eq_some_iff.1 hread
  cases value with
  | null | string =>
      obtain rfl := Option.some.inj hcheck
      trivial
  | list items =>
      obtain ⟨names, hnames, rfl⟩ := Option.map_eq_some_iff.1 hcheck
      have hsilent : (checkConstraint mode o c).hasErrors = false := by
        rw [hnone]
        rfl
      have hshape : c.shape.admits (.list items) = true :=
        ((meets_of_silent hsilent).fits _ hvalue).shape
      have hpart : (under [.key c.key]
          (checkRule mode c.key (.list items) .distinctTypes)).Sublist
            (checkConstraint mode o c) :=
        checkRule_sublist_checkConstraint hvalue hshape hrule
      rw [hnone, List.sublist_nil, under, List.map_eq_nil_iff] at hpart
      obtain ⟨hne, hnodup⟩ := distinct_of_distinctTypes hrules hpart
      have hstored : names.map some = items.map Json.string? :=
        map_of_mapM hnames fun _ _ _ hname => hname.symm
      constructor
      · rintro rfl
        rw [List.map_nil, eq_comm, List.map_eq_nil_iff] at hstored
        exact hne hstored
      · rw [← hstored] at hnodup
        simpa [List.filterMap_map, Function.comp_def] using hnodup
  | _ => contradiction

end Validation

/-! ## Accepted definitions -/

def FieldContent.Sound : FieldContent → Prop
  | .dropdown options => options ≠ [] ∧ (options.map Dropdown.Choice.value).Nodup
  | .number bounds => bounds.Consistent ∧ bounds.Clamps
  | .variable _ types defaultType => types.accepts defaultType = true
  | .checkbox _ | .text _ | .freeForm .. => True

def Argument.Sound : Argument → Prop
  | .field _ _ content => content.Sound
  | .input .. => True

/-- What the settings of the validator promise of a definition. -/
structure Definition.Sound (c : Context) (d : Definition) : Prop where
  arguments : ∀ a ∈ d.arguments, a.Sound
  hue : ∀ degrees, d.colour = some (.hue degrees) → 0.0 ≤ degrees ∧ degrees ≤ 360.0
  extensions : ∀ r, c.extensions = some r → ∀ names, d.extensions = some names →
    ∀ name ∈ names, r.has name = true
  mutator : ∀ r, c.mutators = some r → ∀ name, d.mutator = some name → r.has name = true

/-- Nothing in a definition is idle: every list of types is one that a check could
not do without, and a colour is not hidden by a style. -/
structure Definition.Tight (d : Definition) : Prop where
  checks : ∀ check ∈ d.checks, check.Distinct
  colour : ¬(d.style.isSome = true ∧ d.colour.isSome = true)

namespace Validation

theorem finite_entry {o : Object} {i : Fin slotCount} {item : Json}
    (hfinite : (Json.object o).Finite) (hmem : item ∈ entries i o) : item.Finite := by
  obtain ⟨items, hvalue, hitem⟩ := exists_list_of_mem_entries hmem
  exact Json.finite_list.1 (hfinite.get? hvalue) item hitem

theorem ReadsAs.sound {mode : Mode} {o : Object} {slot : Slot} (hreads : ReadsAs mode o slot)
    (hrules : mode.checksRules = true) (hfinite : (Json.object o).Finite) :
    ∀ a ∈ slot.arguments, a.Sound := by
  intro a hmem
  obtain ⟨members, hentry, hkind, hcontent, hsilent⟩ := hreads.exists_entry hmem
  cases a with
  | input => trivial
  | field name colour content =>
      cases content with
      | dropdown options => exact options_of_silent hrules hkind hsilent hcontent
      | number bounds =>
          have hmembers := finite_entry hfinite hentry
          have hbounds := consistent_of_silent hrules hmembers hkind hsilent hcontent
          exact ⟨hbounds, hbounds.clamps⟩
      | «variable» name types defaultType =>
          exact accepts_of_silent hrules hkind hsilent hcontent
      | _ => trivial

theorem ReadsAs.distinct {mode : Mode} {o : Object} {slot : Slot}
    (hreads : ReadsAs mode o slot) (hrules : mode.checksRules = true)
    (hnone : checkSlot mode o slot.index = []) :
    ∀ a ∈ slot.arguments, ∀ check ∈ a.checks, check.Distinct := by
  intro a hmem check hcheck
  obtain ⟨members, hentry, hkind, hcontent, -⟩ := hreads.exists_entry hmem
  have hargument : checkArgument mode (.object members) = [] := by
    obtain ⟨place, hpart⟩ : ∃ place, (under place (checkArgument mode (.object members))).Sublist
        (checkSlot mode o slot.index) :=
      checkArgument_sublist_checkSlot hentry
    rwa [hnone, List.sublist_nil, under, List.map_eq_nil_iff] at hpart
  obtain ⟨c, hc, hrule, hread⟩ := a.exists_constraint hcontent hcheck
  have hpart : (checkConstraint mode members c).Sublist
      (checkArgument mode (.object members)) :=
    checkConstraint_sublist_checkArgument hkind hc
  rw [hargument, List.sublist_nil] at hpart
  exact distinct_of_checkConstraint hrules hrule hpart hread

/-- A value under a key of the table has its shape, so the rules see it. -/
theorem rootValue?_of_get? {o : Object} (hproper : ProperBlock o) {c : Constraint}
    (hc : rootConstraint? c.key = some c) {value : Json} (hvalue : o.get? c.key = some value) :
    rootValue? o c.key = some value := by
  have hshape := (hproper.fits c (List.mem_of_find?_eq_some hc) value hvalue).shape
  simp [rootValue?, hc, shaped?, hvalue, hshape]

theorem hue_of_silent {c : Context} {o : Object} (hrules : c.mode.checksRules = true)
    (hsilent : (checkBlock c.atRoot o).hasErrors = false) {degrees : Float}
    (hcolour : (o.get? "colour").bind Colour.ofJson? = some (.hue degrees)) :
    0.0 ≤ degrees ∧ degrees ≤ 360.0 := by
  obtain ⟨value, hvalue, hread⟩ := Option.bind_eq_some_iff.1 hcolour
  cases value with
  | number n =>
      simp only [Colour.ofJson?, Option.some.injEq, Colour.hue.injEq] at hread
      obtain rfl := hread
      obtain ⟨required, hmem⟩ := exists_mem_rootConstraints o
        (c := .optional "colour" .colour [.hueInRange]) (by simp [root, settings])
      have hconstraint := hasErrors_eq_false_of_sublist
        (checkConstraint_sublist_checkBlock c hmem) hsilent
      have hrule := silent_rule hconstraint hvalue .hueInRange
        (by simp [Constraint.optional])
      exact hue_of_hueInRange hrules hrule
  | _ => simp [Colour.ofJson?] at hread

theorem has_of_silent {what name : String} {registry : Option Registry} {path : Path}
    (hsilent : (checkRegistered what registry path name).hasErrors = false) {r : Registry}
    (hregistry : registry = some r) : r.has name = true := by
  rw [checkRegistered, ← ite_not] at hsilent
  have hpermits := not_not.1 (not_of_silent rfl hsilent)
  rwa [hregistry] at hpermits

theorem extensions_of_silent {c : Context} {o : Object}
    (hsilent : (checkBlock c.atRoot o).hasErrors = false) {r : Registry}
    (hregistry : c.extensions = some r) {names : List String}
    (hnames : (o.get? "extensions").bind Json.strings? = some names) :
    ∀ name ∈ names, r.has name = true := by
  obtain ⟨value, hvalue, hread⟩ := Option.bind_eq_some_iff.1 hnames
  have hroot := rootValue?_of_get? (c := .optional "extensions" .strings)
    (properBlock_of_silent hsilent) (by decide) hvalue
  have hextensions : (checkExtensions [] c.extensions o).hasErrors = false := by
    simp only [checkBlock_atRoot, hasErrors_append, Bool.or_eq_false_iff] at hsilent
    exact hsilent.1.1.2
  unfold checkExtensions at hextensions
  rw [show rootValue? o "extensions" = some value from hroot, Option.bind_some,
    hread] at hextensions
  intro name hmem
  obtain ⟨position, hregistered⟩ := exists_silent_of_mem_zipIdx hextensions hmem
  exact has_of_silent hregistered hregistry

theorem mutator_of_silent {c : Context} {o : Object}
    (hsilent : (checkBlock c.atRoot o).hasErrors = false) {r : Registry}
    (hregistry : c.mutators = some r) {name : String}
    (hname : (o.get? "mutator").bind Json.string? = some name) : r.has name = true := by
  obtain ⟨value, hvalue, hread⟩ := Option.bind_eq_some_iff.1 hname
  have hroot := rootValue?_of_get? (c := .optional "mutator" .string)
    (properBlock_of_silent hsilent) (by decide) hvalue
  have hmutator : (checkMutator [] c.mutators o).hasErrors = false := by
    simp only [checkBlock_atRoot, hasErrors_append, Bool.or_eq_false_iff] at hsilent
    exact hsilent.1.2
  unfold checkMutator at hmutator
  rw [show rootValue? o "mutator" = some value from hroot, Option.bind_some,
    hread] at hmutator
  exact has_of_silent hmutator hregistry

/-- Where nothing is reported, the style and the colour do not both reach a block. -/
theorem not_style_and_colour {c : Context} {o : Object} (hrules : c.mode.checksRules = true)
    (hnone : checkBlock c.atRoot o = []) :
    ¬(((o.get? "style").bind Json.string?).isSome = true ∧
      ((o.get? "colour").bind Colour.ofJson?).isSome = true) := by
  rintro ⟨hstyle, hcolour⟩
  have hproper : ProperBlock o := properBlock_of_silent (c := c.atRoot) (by rw [hnone]; rfl)
  obtain ⟨style, hread⟩ := Option.isSome_iff_exists.1 hstyle
  obtain ⟨styleValue, hstyleValue, -⟩ := Option.bind_eq_some_iff.1 hread
  obtain ⟨colour, hread⟩ := Option.isSome_iff_exists.1 hcolour
  obtain ⟨colourValue, hcolourValue, -⟩ := Option.bind_eq_some_iff.1 hread
  have hstyleRoot : rootValue? o "style" = some styleValue :=
    rootValue?_of_get? (c := .optional "style" .string) hproper (by decide) hstyleValue
  have hcolourRoot : rootValue? o "colour" = some colourValue :=
    rootValue?_of_get? (c := .optional "colour" .colour [.hueInRange]) hproper (by decide)
      hcolourValue
  simp only [checkBlock_atRoot, List.append_eq_nil_iff] at hnone
  have hcolours := hnone.1.1.1.2
  simp [checkColours, hrules, hstyleRoot, hcolourRoot] at hcolours

/-- Every rule that a document was checked for holds of the definition it gives, and
in the strict mode nothing in the definition is idle. -/
theorem sound_of_accepted {c : Context} {document : Json} {d : Definition}
    (hmode : c.mode = .strict ∨ c.mode = .tolerant) (hfinite : document.Finite)
    (haccepted : (validate c document).definition = some d) :
    d.Sound c ∧ (c.mode = .strict → d.Tight) := by
  have hrules : c.mode.checksRules = true := by
    rcases hmode with hmode | hmode <;> rw [hmode] <;> rfl
  obtain ⟨o, rfl, hsilent, hread, hslots⟩ := slots_of_accepted haccepted
  have hsettled := Definition.settledBy_of_ofObject? hread
  have hreads : ∀ slot ∈ d.slots, ReadsAs c.mode o slot :=
    fun slot hmem => readsAs_of_mem (hslots ▸ hmem)
  refine ⟨⟨?_, ?_, ?_, ?_⟩, fun hstrict => ?_⟩
  · intro a hmem
    obtain ⟨slot, hslot, ha⟩ := List.mem_flatMap.1 hmem
    exact (hreads slot hslot).sound hrules hfinite a ha
  · intro degrees hcolour
    exact hue_of_silent hrules hsilent (hsettled.colour ▸ hcolour)
  · intro r hregistry names hnames
    exact extensions_of_silent hsilent hregistry (hsettled.extensions ▸ hnames)
  · intro r hregistry name hname
    exact mutator_of_silent hsilent hregistry (hsettled.mutator ▸ hname)
  have hnone : checkBlock c.atRoot o = [] := checkDocument_eq_nil_of_strict hstrict haccepted
  constructor
  · intro check hcheck
    rcases List.mem_append.1 hcheck with hblock | hargument
    · obtain ⟨base, hbase, hrule, hvalue⟩ :=
        Connections.exists_constraint hsettled.connections hblock
      obtain ⟨required, hmem⟩ := exists_mem_rootConstraints o hbase
      have hpart := checkConstraint_sublist_checkBlock c hmem
      rw [hnone, List.sublist_nil] at hpart
      exact distinct_of_checkConstraint (c := { base with required }) hrules hrule hpart hvalue
    · obtain ⟨a, ha, hcheck⟩ := List.mem_flatMap.1 hargument
      obtain ⟨slot, hslot, ha⟩ := List.mem_flatMap.1 ha
      have hpart := checkSlot_sublist_checkBlock (o := o) c slot.index
      rw [hnone, List.sublist_nil] at hpart
      exact (hreads slot hslot).distinct hrules hpart a ha check hcheck
  · rw [hsettled.style, hsettled.colour]
    exact not_style_and_colour hrules hnone

theorem sound_of_accepted_timer :
    let document := Json.object [
      ("args0", .list [
        .object [("max", .number (.int 10)), ("min", .number (.int 0)), ("name", .string "N"),
          ("precision", .number (.int 1)), ("type", .string "field_number"),
          ("value", .number (.int 3))],
        .object [("name", .string "UNIT"),
          ("options", .list [.list [.string "seconds", .string "S"],
            .list [.string "minutes", .string "M"]]),
          ("type", .string "field_dropdown")]]),
      ("colour", .number (.int 120)),
      ("extensions", .list [.string "timed"]),
      ("message0", .string "wait %1 %2"),
      ("output", .list [.string "Number", .string "String"]),
      ("type", .string "wait")]
    let bounds : NumberBounds :=
      ⟨some (Float.ofInt 3), some (Float.ofInt 0), some (Float.ofInt 10), some (Float.ofInt 1)⟩
    let options : List Dropdown.Choice := [⟨.text "seconds", "S"⟩, ⟨.text "minutes", "M"⟩]
    let d : Definition :=
      ⟨"wait", .value (.anyOf ["Number", "String"]),
        [⟨⟨0, by decide⟩, "wait %1 %2",
          [.field "N" none (.number bounds), .field "UNIT" none (.dropdown options)], none⟩],
        none, none, none, some (.hue (Float.ofInt 120)), none, some ["timed"], none⟩
    let c : Context := ⟨.strict, some (.ofList ["timed", "other"]), some (.ofList []), []⟩
    document.Finite ∧ (validate c document).definition = some d ∧ d.Sound c ∧ d.Tight := by
  intro document bounds options d c
  have hfinite : document.Finite := by
    decide +kernel
  have haccepted : (validate c document).definition = some d := by
    decide +kernel
  obtain ⟨hsound, htight⟩ := sound_of_accepted (.inl rfl) hfinite haccepted
  exact ⟨hfinite, haccepted, hsound, htight rfl⟩

end Validation

end EditorBlocks
