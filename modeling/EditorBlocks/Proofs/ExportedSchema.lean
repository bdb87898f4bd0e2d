import EditorBlocks.Proofs.ExportedParts

/-!
# What the exported schema says

The schema of block definitions is written from the constraint tables, and it
says of a value what the tables say: that it is a proper block.  Beyond that it
says two of the rules, that options are not empty and that a precision is not
negative.
-/

namespace EditorBlocks

open Schema JsonSchema Validation

namespace Schema

variable {value : Json} {n : Nat}

/-! ## One key -/

/-- What the keyword of a rule says of a value of the right shape. -/
def Rule.Kept : Rule → Json → Prop
  | .nonEmpty, value => value ≠ .list []
  | .nonNegative, value => ∀ n, value = .number n → (Number.int 0).atMost n = true
  | .oneOf names, value => ∀ s, value = .string s → s ∈ names
  | .distinctOptions, _ | .hueInRange, _ | .distinctTypes, _ => True

theorem Rule.holds_keywords {references : String → Json → Bool} {done : Nat} {rule : Rule}
    (hwords : ∀ names, rule = .oneOf names → value.isString = true) :
    (∀ k ∈ rule.keywords, k.Holds references done value) ↔ rule.Kept value := by
  cases rule with
  | nonEmpty =>
      rw [Rule.keywords, List.forall_mem_singleton, Keyword.holds_minItems]
      constructor
      · rintro hitems rfl
        exact absurd (hitems [] rfl) (by decide)
      · rintro hne items rfl
        cases items with
        | nil => exact absurd rfl hne
        | cons item rest => simp
  | nonNegative =>
      rw [Rule.keywords, List.forall_mem_singleton, Keyword.holds_minimum]
      rfl
  | oneOf names =>
      rw [Rule.keywords, List.forall_mem_singleton, Keyword.holds_enumeration]
      obtain ⟨s, rfl⟩ := Json.isString_iff.1 (hwords names rfl)
      simp [Rule.Kept]
  | distinctOptions | hueInRange | distinctTypes =>
      simp [Rule.keywords, Rule.Kept]

theorem Rule.key_ne_prefixItems (rule : Rule) :
    ∀ k ∈ rule.keywords, k.key ≠ "prefixItems" := by
  cases rule <;> simp [Rule.keywords, Keyword.key, keywordMember]

theorem Shape.key_ne_prefixItems (shape : Shape) :
    ∀ k ∈ shape.keywords, k.key ≠ "prefixItems" := by
  cases shape <;> simp [Shape.keywords, Keyword.key, keywordMember]

theorem Constraint.positions_schema (c : Constraint) : positions c.schema = 0 := by
  apply positions_eq_zero
  intro k hk
  rcases List.mem_append.1 hk with hshape | hrule
  · exact c.shape.key_ne_prefixItems k hshape
  · obtain ⟨rule, -, hk⟩ := List.mem_flatMap.1 hrule
    exact rule.key_ne_prefixItems k hk

theorem Shape.distinct_keywords (shape : Shape) : Distinct shape.keywords := by
  cases shape <;> decide

theorem Shape.holds_keywords {shape : Shape} {references : String → Json → Bool} :
    (∀ k ∈ shape.keywords, k.Holds references 0 value) ↔
      holds references (toJson shape.keywords) value = true := by
  rw [holds_toJson shape.distinct_keywords, positions_eq_zero shape.key_ne_prefixItems]

/-- The keywords of a constraint are of different names, and fixed words are
those of a string. -/
structure Constraint.Regular (c : Constraint) : Prop where
  distinct : Distinct c.schema
  words : ∀ k ∈ c.schema, k.key = "enum" → c.shape = .align

instance (c : Constraint) : Decidable c.Regular :=
  decidable_of_iff (Distinct c.schema ∧ ∀ k ∈ c.schema, k.key = "enum" → c.shape = .align)
    ⟨fun h => ⟨h.1, h.2⟩, fun h => ⟨h.distinct, h.words⟩⟩

theorem Constraint.holds_schema {c : Constraint} (hregular : c.Regular)
    {references : String → Json → Bool} :
    holds references (toJson c.schema) value = true ↔
      holds references (toJson c.shape.keywords) value = true ∧
        ∀ rule ∈ c.rules, rule.Kept value := by
  rw [holds_toJson hregular.distinct, c.positions_schema, Constraint.schema,
    List.forall_mem_append, Shape.holds_keywords]
  refine and_congr_right fun hshape => ?_
  rw [List.forall_mem_flatMap]
  refine forall₂_congr fun rule hrule => Rule.holds_keywords ?_
  -- Fixed words come with a shape of strings, so the value is known to be one.
  rintro names rfl
  have hword : Keyword.enumeration names ∈ c.schema :=
    List.mem_append_right _ (List.mem_flatMap.2 ⟨_, hrule, List.mem_singleton_self _⟩)
  rw [hregular.words _ hword rfl, Shape.keywords, holds_string] at hshape
  exact hshape

theorem mem_exportedDefinitions_connectionCheck :
    ("connectionCheck", connectionCheckSchema) ∈ exportedDefinitions := by
  simp [exportedDefinitions]

theorem mem_exportedDefinitions_dropdownOption :
    ("dropdownOption", dropdownOptionSchema) ∈ exportedDefinitions := by
  simp [exportedDefinitions]

theorem mem_exportedDefinitions_argument :
    ("argument", argumentSchema) ∈ exportedDefinitions := by
  simp [exportedDefinitions]

theorem holds_reference {references : String → Json → Bool} {name : String} :
    holds references (toJson [.reference name]) value = true ↔
      references ("#/$defs/" ++ name) value = true := by
  rw [holds_single, Keyword.holds_reference]

/-- A shape without arguments needs one reference at most. -/
theorem Shape.holds_of_plain {shape : Shape} (hplain : shape ≠ .arguments) :
    holds (follow exported.toJson (n + 1)) (toJson shape.keywords) value = true ↔
      shape.admits value = true ∧ ∀ items, shape = .options → value = .list items →
        ∀ item ∈ items, (Dropdown.Choice.ofJson? item).isSome = true := by
  cases shape with
  | string | align => simp [Shape.keywords, holds_string, Shape.admits]
  | bool =>
      rw [Shape.keywords, holds_single, Keyword.holds_type, List.mem_singleton,
        typeName_eq_boolean]
      simp [Shape.admits]
  | number => simp [Shape.keywords, holds_number, Shape.admits]
  | strings => simp [holds_strings]
  | connectionCheck =>
      rw [Shape.keywords, holds_reference,
        follow_exported mem_exportedDefinitions_connectionCheck, holds_connectionCheck]
      simp
  | options =>
      rw [Shape.keywords, holds_list]
      simp only [holds_reference, follow_exported mem_exportedDefinitions_dropdownOption,
        holds_dropdownOption]
      cases value <;> simp [Shape.admits, Json.isList]
  | colour =>
      rw [Shape.keywords, holds_single, Keyword.holds_type, List.mem_pair,
        typeName_eq_string, typeName_eq_number]
      simp [Shape.admits]
  | anything =>
      have hdistinct : Distinct [] := List.nodup_nil
      have hempty : holds (follow exported.toJson (n + 1)) (toJson []) value = true :=
        (holds_toJson hdistinct).2 (List.forall_mem_nil _)
      simp [Shape.keywords, hempty, Shape.admits]
  | arguments => contradiction

/-- Away from arguments, the schema of a constraint says that the value fits, and
that it keeps the rules with keywords. -/
theorem Constraint.holds_iff_fits {c : Constraint} (hregular : c.Regular)
    (hplain : c.shape ≠ .arguments) :
    holds (follow exported.toJson (n + 1)) (toJson c.schema) value = true ↔
      c.Fits value ∧ ∀ rule ∈ c.rules, rule.Kept value := by
  rw [Constraint.holds_schema hregular, Shape.holds_of_plain hplain]
  constructor
  · rintro ⟨⟨hshape, hoptions⟩, hkept⟩
    exact ⟨⟨hshape, hoptions, fun names s hrule => hkept _ hrule s⟩, hkept⟩
  · rintro ⟨hfits, hkept⟩
    exact ⟨⟨hfits.shape, hfits.options⟩, hkept⟩

/-! ## Arguments -/

theorem regular_of_kind (kind : ArgumentKind) :
    ∀ c ∈ (argument kind).constraints, c.Regular ∧ c.shape ≠ .arguments := by
  cases kind with
  | freeForm kind => cases kind <;> decide
  | input kind => cases kind <;> decide
  | _ => decide

theorem tag_argument (kind : ArgumentKind) : (argument kind).tag = kind.name := by
  cases kind <;> rfl

theorem nodup_keys_of_kind (kind : ArgumentKind) :
    ("type" :: (argument kind).constraints.map Constraint.key).Nodup := by
  cases kind with
  | freeForm kind => cases kind <;> decide
  | input kind => cases kind <;> decide
  | _ => decide

theorem argumentKind?_eq_some_iff {o : Object} {kind : ArgumentKind} :
    argumentKind? (.object o) = some kind ↔ o.get? "type" = some (.string kind.name) := by
  constructor
  · exact type_of_argumentKind?
  · intro htype
    simp [argumentKind?, Json.object?, argumentType, Constraint.mandatory, htype,
      Json.string?]

/-- A proper argument that keeps the rules with keywords. -/
structure ConformingArgument (o : Object) (kind : ArgumentKind) : Prop
    extends ProperArgument o kind where
  kept : ∀ c ∈ (argument kind).constraints, ∀ value, o.get? c.key = some value →
    ∀ rule ∈ c.rules, rule.Kept value

theorem holds_argument {kind : ArgumentKind} :
    holds (follow exported.toJson (n + 1)) (toJson (argument kind).schema) value = true ↔
      ∃ o, value = .object o ∧ ConformingArgument o kind := by
  have hnodup : ((("type", [.const (argument kind).tag]) ::
      (argument kind).constraints.map Constraint.property).map Prod.fst).Nodup := by
    rw [List.map_cons, List.map_map]
    exact nodup_keys_of_kind kind
  rw [Table.schema, holds_object hnodup]
  refine exists_congr fun o => and_congr_right fun _ => ?_
  rw [List.forall_mem_cons, List.forall_mem_cons, List.forall_mem_map, tag_argument]
  simp only [holds_single, Keyword.holds_const]
  constructor
  · rintro ⟨⟨htype, hrequired⟩, htag, hvalues⟩
    obtain ⟨type, hvalue⟩ := Option.isSome_iff_exists.1 htype
    obtain rfl := htag type hvalue
    have hfits : ∀ c ∈ (argument kind).constraints, ∀ value, o.get? c.key = some value →
        c.Fits value ∧ ∀ rule ∈ c.rules, rule.Kept value := by
      intro c hc value hvalue
      obtain ⟨hregular, hplain⟩ := regular_of_kind kind c hc
      exact (Constraint.holds_iff_fits hregular hplain).1 (hvalues c hc value hvalue)
    refine ⟨⟨argumentKind?_eq_some_iff.2 hvalue, fun c hc => ⟨?_, ?_⟩⟩, ?_⟩
    · intro hneeded
      have hkey : c.key ∈ (argument kind).requiredKeys :=
        List.mem_map_of_mem (List.mem_filter.2 ⟨hc, hneeded⟩)
      exact Option.isSome_iff_exists.1 (hrequired c.key hkey)
    · exact fun value hvalue => (hfits c hc value hvalue).1
    · exact fun c hc value hvalue => (hfits c hc value hvalue).2
  · rintro ⟨⟨hkind, hmeets⟩, hkept⟩
    have htype := argumentKind?_eq_some_iff.1 hkind
    refine ⟨⟨Option.isSome_of_eq_some htype, ?_⟩, ?_, ?_⟩
    · intro key hkey
      obtain ⟨c, hc, rfl⟩ := List.mem_map.1 hkey
      obtain ⟨hc, hneeded⟩ := List.mem_filter.1 hc
      exact Option.isSome_iff_exists.2 ((hmeets c hc).present hneeded)
    · intro found hfound
      exact (Option.some.inj (htype.symm.trans hfound)).symm
    · intro c hc value hvalue
      obtain ⟨hregular, hplain⟩ := regular_of_kind kind c hc
      exact (Constraint.holds_iff_fits hregular hplain).2
        ⟨(hmeets c hc).fits value hvalue, hkept c hc value hvalue⟩

theorem countP_eq_one_iff {α : Type} {p : α → Bool} {xs : List α} (hnodup : xs.Nodup)
    (hunique : ∀ x ∈ xs, ∀ y ∈ xs, p x = true → p y = true → x = y) :
    xs.countP p = 1 ↔ ∃ x ∈ xs, p x = true := by
  induction xs with
  | nil => simp
  | cons x rest ih =>
      obtain ⟨hfresh, hnodup⟩ := List.nodup_cons.1 hnodup
      by_cases hx : p x = true
      · have hrest : rest.countP p = 0 := by
          rw [List.countP_eq_zero]
          intro y hy hp
          have hxy : x = y := hunique x List.mem_cons_self y (List.mem_cons_of_mem _ hy) hx hp
          exact hfresh (hxy ▸ hy)
        rw [List.countP_cons_of_pos hx, hrest]
        exact iff_of_true rfl ⟨x, List.mem_cons_self, hx⟩
      · rw [List.countP_cons_of_neg hx, List.exists_mem_cons_iff, or_iff_right hx]
        exact ih hnodup fun y hy z hz =>
          hunique y (List.mem_cons_of_mem _ hy) z (List.mem_cons_of_mem _ hz)

theorem mem_exportedDefinitions_kind (kind : ArgumentKind) :
    (kind.name, (argument kind).schema) ∈ exportedDefinitions := by
  have hkind : kind ∈ ArgumentKind.all := List.mem_of_find?_eq_some kind.ofName?_name
  exact List.mem_append_right _ (List.mem_map_of_mem hkind)

/-- The kinds exclude one another by their types, so one is exactly one.  One
reference leads to the arguments, one to a kind and one to a connection check. -/
theorem follow_argument :
    follow exported.toJson (n + 3) ("#/$defs/" ++ "argument") value = true ↔
      ∃ o kind, value = .object o ∧ ConformingArgument o kind := by
  have hreference : ∀ kind : ArgumentKind,
      holds (follow exported.toJson (n + 2)) (toJson [.reference kind.name]) value = true ↔
        ∃ o, value = .object o ∧ ConformingArgument o kind := by
    intro kind
    rw [holds_reference, follow_exported (mem_exportedDefinitions_kind kind), holds_argument]
  rw [follow_exported mem_exportedDefinitions_argument, argumentSchema, holds_single,
    Keyword.holds_oneOf, List.countP_map, countP_eq_one_iff (by decide)]
  · simp only [Function.comp_apply, hreference]
    constructor
    · rintro ⟨kind, -, o, rfl, hconforms⟩
      exact ⟨o, kind, rfl, hconforms⟩
    · rintro ⟨o, kind, rfl, hconforms⟩
      exact ⟨kind, List.mem_of_find?_eq_some kind.ofName?_name, o, rfl, hconforms⟩
  · intro first _ second _ hfirst hsecond
    obtain ⟨o, rfl, hone⟩ := (hreference first).1 hfirst
    obtain ⟨_, ⟨⟩, hother⟩ := (hreference second).1 hsecond
    exact Option.some.inj (hone.hasKind.symm.trans hother.hasKind)

/-! ## Blocks -/

/-- A proper block whose arguments keep the rules with keywords. -/
structure ConformingBlock (o : Object) : Prop extends ProperBlock o where
  conforming : ∀ i, ∀ item ∈ entries i o,
    ∃ members kind, item = .object members ∧ ConformingArgument members kind

theorem regular_of_root : ∀ c ∈ root, c.Regular := by
  decide

theorem nodup_keys_of_root : (root.map Constraint.key).Nodup := by
  decide

theorem eq_arguments_of_shape : ∀ c ∈ root, c.shape = .arguments →
    ∃ i, c = Schema.arguments i := by
  decide

theorem unbounded_of_root : ∀ c ∈ root, ∀ rule ∈ c.rules,
    rule ≠ .nonEmpty ∧ rule ≠ .nonNegative := by
  decide

theorem holds_exclusions {references : String → Json → Bool} {o : Object} :
    (∀ schema ∈ exclusions, holds references (toJson schema) (.object o) = true) ↔
      ¬(hasValueKey o = true ∧ hasStatementKey o = true) := by
  have hpair : ∀ value statement : Constraint,
      holds references (toJson [.not [.required [value.key, statement.key]]]) (.object o) =
          true ↔
        ¬(o.has value.key = true ∧ o.has statement.key = true) := by
    intro value statement
    rw [holds_single, Keyword.holds_not, holds_single, Keyword.holds_required]
    simp
  simp only [exclusions, List.forall_mem_flatMap, List.forall_mem_map, hpair, hasValueKey,
    hasStatementKey, List.any_eq_true]
  constructor
  · rintro hpairs ⟨⟨value, hvalue, hhasValue⟩, statement, hstatement, hhasStatement⟩
    exact hpairs statement hstatement value hvalue ⟨hhasValue, hhasStatement⟩
  · rintro hnone statement hstatement value hvalue ⟨hhasValue, hhasStatement⟩
    exact hnone ⟨⟨value, hvalue, hhasValue⟩, statement, hstatement, hhasStatement⟩

/-- Argument lists hold arguments, and every other value fits. -/
theorem holds_constraint_of_root {c : Constraint} (hc : c ∈ root) :
    holds (follow exported.toJson (n + 3)) (toJson c.schema) value = true ↔
      c.Fits value ∧ ∀ i items, c = Schema.arguments i → value = .list items →
        ∀ item ∈ items, ∃ o kind, item = .object o ∧ ConformingArgument o kind := by
  by_cases harguments : c.shape = .arguments
  · obtain ⟨i, rfl⟩ := eq_arguments_of_shape c hc harguments
    have hschema : (Schema.arguments i).schema =
        [.type ["array"], .items [.reference "argument"]] := rfl
    rw [hschema, holds_list]
    simp only [holds_reference, follow_argument]
    constructor
    · rintro ⟨items, rfl, hitems⟩
      refine ⟨⟨rfl, nofun, nofun⟩, ?_⟩
      rintro _ _ - ⟨⟩
      exact hitems
    · rintro ⟨hfits, hitems⟩
      cases value with
      | list items => exact ⟨items, rfl, hitems i items rfl rfl⟩
      | _ => exact absurd hfits.shape Bool.false_ne_true
  · have hkept : c.Fits value → ∀ rule ∈ c.rules, rule.Kept value := by
      intro hfits rule hrule
      obtain ⟨hnonEmpty, hnonNegative⟩ := unbounded_of_root c hc rule hrule
      cases rule with
      | oneOf names => exact fun s hs => hfits.listed names s hrule hs
      | nonEmpty | nonNegative => contradiction
      | distinctOptions | hueInRange | distinctTypes => trivial
    rw [Constraint.holds_iff_fits (regular_of_root c hc) harguments, and_congr_right_iff]
    intro hfits
    refine iff_of_true (hkept hfits) ?_
    rintro i items rfl
    exact absurd rfl harguments

theorem holds_exported {references : String → Json → Bool} {document : Json} :
    holds references (toJson exported) document = true ↔
      ∃ o : Object, document = .object o ∧ o.has "type" = true ∧
        (∀ c ∈ root, ∀ found, o.get? c.key = some found →
          holds references (toJson c.schema) found = true) ∧
        ¬(hasValueKey o = true ∧ hasStatementKey o = true) := by
  have hnodup : ((root.map Constraint.property).map Prod.fst).Nodup := by
    rw [List.map_map]
    exact nodup_keys_of_root
  rw [holds_toJson distinct_exported]
  -- The root looks at no list, so it does not matter how many items are left over.
  generalize positions exported = done
  simp only [exported, List.forall_mem_cons, Keyword.holds_type, List.mem_singleton,
    typeName_eq_object, Keyword.holds_required, Keyword.holds_properties hnodup,
    Keyword.holds_allOf]
  constructor
  · rintro ⟨-, -, -, ⟨o, rfl⟩, hrequired, hproperties, hexclusions, -⟩
    refine ⟨o, rfl, hrequired o rfl "type" rfl, ?_, holds_exclusions.1 hexclusions⟩
    intro c hc
    exact hproperties o rfl c.property (List.mem_map_of_mem hc)
  · rintro ⟨o, rfl, htype, hproperties, hexclusive⟩
    refine ⟨Keyword.holds_remark (by decide), Keyword.holds_remark (by decide),
      Keyword.holds_remark (by decide), ⟨o, rfl⟩, ?_, ?_, holds_exclusions.2 hexclusive, ?_⟩
    · rintro _ ⟨⟩ _ rfl
      exact htype
    · rintro _ ⟨⟩ m hm
      obtain ⟨c, hc, rfl⟩ := List.mem_map.1 hm
      exact hproperties c hc
    · rintro _ rfl
      exact Keyword.holds_definitions

/-- Three references in a row lead everywhere. -/
theorem satisfiesAt_exported_iff {document : Json} :
    SatisfiesAt (n + 3) exported.toJson document ↔
      ∃ o, document = .object o ∧ ConformingBlock o := by
  rw [SatisfiesAt, holds_exported]
  refine exists_congr fun o => and_congr_right fun _ => ?_
  constructor
  · rintro ⟨htype, hvalues, hexclusive⟩
    have hconforming : ∀ i, ∀ item ∈ entries i o,
        ∃ members kind, item = .object members ∧ ConformingArgument members kind := by
      intro i item hitem
      obtain ⟨items, hvalue, hitem⟩ := exists_list_of_mem_entries hitem
      have hmem := ProperBlock.arguments_mem_root i
      have hlist := (holds_constraint_of_root hmem).1 (hvalues _ hmem _ hvalue)
      exact hlist.2 i items rfl rfl item hitem
    refine ⟨⟨hexclusive, ?_, ?_, ?_⟩, hconforming⟩
    · obtain ⟨type, hvalue⟩ := Option.isSome_iff_exists.1 htype
      have hmem : blockType ∈ root := List.mem_cons_self
      have hfits := ((holds_constraint_of_root hmem).1 (hvalues _ hmem type hvalue)).1
      obtain ⟨s, rfl⟩ := Json.isString_iff.1 hfits.shape
      exact ⟨s, hvalue⟩
    · intro c hc value hvalue
      exact ((holds_constraint_of_root hc).1 (hvalues c hc value hvalue)).1
    · intro i item hitem
      obtain ⟨members, kind, hitem, hargument⟩ := hconforming i item hitem
      exact ⟨members, kind, hitem, hargument.toProperArgument⟩
  · intro hblock
    refine ⟨?_, ?_, hblock.exclusive⟩
    · obtain ⟨type, hvalue⟩ := hblock.hasType
      exact Option.isSome_of_eq_some hvalue
    · intro c hc value hvalue
      refine (holds_constraint_of_root hc).2 ⟨hblock.fits c hc value hvalue, ?_⟩
      rintro i items rfl rfl item hitem
      apply hblock.conforming i item
      rwa [entries_of_get? hvalue]

theorem satisfies_exported_iff {document : Json} :
    Satisfies exported.toJson document ↔ ∃ o, document = .object o ∧ ConformingBlock o := by
  constructor
  · rintro ⟨enough, hholds⟩
    exact satisfiesAt_exported_iff.1 (hholds (enough + 3) (Nat.le_add_right enough 3))
  · intro hconforms
    refine ⟨3, fun depth hdepth => ?_⟩
    obtain ⟨n, rfl⟩ := Nat.exists_eq_add_of_le' hdepth
    exact satisfiesAt_exported_iff.2 hconforms

end Schema

end EditorBlocks
