import EditorBlocks.Proofs.Acceptance
import EditorBlocks.Proofs.SchemaKeywords
import EditorBlocks.Schema.Export

/-!
# The parts of the exported schema

The schema of block definitions refers to definitions of its own.  Those that
refer to nothing else say what a connection check and a dropdown option look
like, and they agree with the readers of the library.
-/

namespace EditorBlocks

open Schema JsonSchema Validation

theorem Object.find?_key (o : Object) (key : String) :
    o.find? (fun m => m.1 = key) = (o.get? key).map fun value => (key, value) := by
  induction o with
  | nil => rfl
  | cons m rest ih =>
      rw [get?_cons]
      by_cases hkey : m.1 = key
      · rw [List.find?_cons_of_pos (by simpa using hkey), if_pos hkey.symm, Option.map_some,
          ← hkey]
      · rw [List.find?_cons_of_neg (by simpa using hkey), if_neg (Ne.symm hkey), ih]

namespace Schema

variable {references : String → Json → Bool} {value : Json}

/-! ## References -/

theorem referenced?_of_mem {schema : JsonSchema} (hdistinct : schema.Distinct)
    {definitions : List (String × JsonSchema)} (hmem : .definitions definitions ∈ schema)
    (hnodup : (definitions.map Prod.fst).Nodup) {name : String} {found : JsonSchema}
    (hfound : (name, found) ∈ definitions) :
    referenced? schema.toJson ("#/$defs/" ++ name) = some found.toJson := by
  have hkeywords : (Object.keys (schema.map keywordMember)).Nodup := by
    rwa [Object.keys, List.map_map]
  have hnames : (Object.keys (definitions.map fun m => (m.1, m.2.toJson))).Nodup := by
    rwa [Object.keys, List.map_map]
  have hdefinitions : (Object.ofList (members schema)).get? "$defs" =
      some (.ofMembers (namedJson definitions)) := by
    rw [(Object.ascending_ofList _).get?_eq_some_iff, members_eq_map,
      Object.mem_ofList hkeywords]
    exact List.mem_map_of_mem hmem
  have hschema : (Object.ofList (namedJson definitions)).get? name = some found.toJson := by
    rw [(Object.ascending_ofList _).get?_eq_some_iff, namedJson_eq_map,
      Object.mem_ofList hnames]
    exact List.mem_map_of_mem (f := fun m => (m.1, toJson m.2)) hfound
  simp only [referenced?, toJson, Json.ofMembers, Json.object?, Option.bind_eq_bind,
    Option.bind_some, hdefinitions, String.append_right_inj, Object.find?_key, hschema,
    Option.map_some]

theorem distinct_exported : exported.Distinct := by
  decide

theorem nodup_exportedDefinitions : (exportedDefinitions.map Prod.fst).Nodup := by
  decide

/-- One step along a reference of the exported schema. -/
theorem follow_exported {name : String} {found : JsonSchema}
    (hfound : (name, found) ∈ exportedDefinitions) (n : Nat) :
    follow exported.toJson (n + 1) ("#/$defs/" ++ name) value =
      holds (follow exported.toJson n) found.toJson value := by
  have hmem : Keyword.definitions exportedDefinitions ∈ exported := by
    simp [exported]
  change Option.any _ _ = _
  rw [referenced?_of_mem distinct_exported hmem nodup_exportedDefinitions hfound,
    Option.any_some]

/-! ## Schemas without references to arguments -/

theorem holds_single {k : Keyword} :
    holds references (toJson [k]) value = true ↔ k.Holds references (positions [k]) value := by
  have hdistinct : Distinct [k] := List.nodup_singleton k.key
  rw [holds_toJson hdistinct, List.forall_mem_singleton]

theorem holds_string :
    holds references (toJson [.type ["string"]]) value = true ↔ value.isString = true := by
  rw [holds_single, Keyword.holds_type, List.mem_singleton, typeName_eq_string]

theorem holds_number :
    holds references (toJson [.type ["number"]]) value = true ↔ value.isNumber = true := by
  rw [holds_single, Keyword.holds_type, List.mem_singleton, typeName_eq_number]

theorem holds_null :
    holds references (toJson [.type ["null"]]) value = true ↔ value = .null := by
  rw [holds_single, Keyword.holds_type, List.mem_singleton]
  cases value <;> simp [typeName]

/-- A list whose items satisfy a schema. -/
theorem holds_list {schema : JsonSchema} :
    holds references (toJson [.type ["array"], .items schema]) value = true ↔
      ∃ items, value = .list items ∧ ∀ item ∈ items,
        holds references schema.toJson item = true := by
  have hdistinct : Distinct [.type ["array"], .items schema] :=
    (by decide : ["type", "items"].Nodup)
  have hpositions : positions [.type ["array"], .items schema] = 0 := by
    apply positions_eq_zero
    simp [Keyword.key, keywordMember]
  rw [holds_toJson hdistinct, hpositions, List.forall_mem_cons, List.forall_mem_singleton,
    Keyword.holds_type, Keyword.holds_items, List.mem_singleton, typeName_eq_array]
  constructor
  · rintro ⟨⟨items, rfl⟩, hitems⟩
    exact ⟨items, rfl, by simpa using hitems items rfl⟩
  · rintro ⟨items, rfl, hitems⟩
    refine ⟨⟨items, rfl⟩, fun found hfound => ?_⟩
    obtain rfl : items = found := by simpa using hfound
    simpa using hitems

theorem holds_strings :
    holds references (toJson Shape.strings.keywords) value = true ↔
      Shape.strings.admits value = true := by
  rw [Shape.keywords, holds_list]
  simp only [holds_string]
  cases value <;> simp [Shape.admits]

/-- The three alternatives exclude one another, so one is exactly one. -/
theorem holds_connectionCheck :
    holds references (toJson connectionCheckSchema) value = true ↔
      Shape.connectionCheck.admits value = true := by
  rw [connectionCheckSchema, holds_single, Keyword.holds_oneOf]
  simp only [List.countP_cons, List.countP_nil, holds_null, holds_string, holds_strings]
  cases value <;> simp [Json.isString, Shape.admits]

/-- An object with schemas for its members, some of which have to be there. -/
theorem holds_object {schemas : List (String × JsonSchema)} {keys : List String}
    (hnodup : (schemas.map Prod.fst).Nodup) :
    holds references (toJson [.type ["object"], .properties schemas, .required keys])
        value = true ↔
      ∃ o : Object, value = .object o ∧ (∀ key ∈ keys, o.has key = true) ∧
        ∀ m ∈ schemas, ∀ found, o.get? m.1 = some found →
          holds references m.2.toJson found = true := by
  have hdistinct : Distinct [.type ["object"], .properties schemas, .required keys] :=
    (by decide : ["type", "properties", "required"].Nodup)
  rw [holds_toJson hdistinct, List.forall_mem_cons, List.forall_mem_cons,
    List.forall_mem_singleton, Keyword.holds_type, Keyword.holds_properties hnodup,
    Keyword.holds_required, List.mem_singleton, typeName_eq_object]
  constructor
  · rintro ⟨⟨o, rfl⟩, hschemas, hkeys⟩
    exact ⟨o, rfl, hkeys o rfl, hschemas o rfl⟩
  · rintro ⟨o, rfl, hkeys, hschemas⟩
    refine ⟨⟨o, rfl⟩, ?_, ?_⟩
    · rintro _ ⟨⟩
      exact hschemas
    · rintro _ ⟨⟩
      exact hkeys

theorem holds_image :
    holds references (toJson imageSchema) value = true ↔
      ∃ o, value = .object o ∧ (Dropdown.Image.ofObject? o).isSome = true := by
  rw [imageSchema, holds_object (by decide)]
  refine exists_congr fun o => and_congr_right fun _ => ?_
  rw [Dropdown.Image.isSome_ofObject?_iff]
  simp only [List.forall_mem_cons, List.not_mem_nil, false_imp_iff, forall_const, and_true,
    holds_string, holds_number, Object.has, Option.isSome_iff_exists]
  constructor
  · rintro ⟨⟨⟨src, hsrc⟩, ⟨width, hwidth⟩, ⟨height, hheight⟩⟩, hsrcForm, hwidthForm,
      hheightForm, halt⟩
    obtain ⟨_, rfl⟩ := Json.isString_iff.1 (hsrcForm src hsrc)
    obtain ⟨_, rfl⟩ := Json.isNumber_iff.1 (hwidthForm width hwidth)
    obtain ⟨_, rfl⟩ := Json.isNumber_iff.1 (hheightForm height hheight)
    exact ⟨⟨_, hsrc⟩, ⟨_, hwidth⟩, ⟨_, hheight⟩, halt⟩
  · rintro ⟨⟨src, hsrc⟩, ⟨width, hwidth⟩, ⟨height, hheight⟩, halt⟩
    simp [hsrc, hwidth, hheight, Json.isString, Json.isNumber]
    exact halt

theorem holds_label :
    holds references (toJson [.anyOf [[.type ["string"]], imageSchema]]) value = true ↔
      (Dropdown.Label.ofJson? value).isSome = true := by
  rw [holds_single, Keyword.holds_anyOf]
  simp only [List.exists_mem_cons_iff, List.not_mem_nil, false_and, exists_false, or_false,
    holds_string, holds_image]
  cases value <;> simp [Json.isString, Dropdown.Label.ofJson?]

theorem holds_dropdownOption :
    holds references (toJson dropdownOptionSchema) value = true ↔
      (Dropdown.Choice.ofJson? value).isSome = true := by
  have hdistinct : Distinct dropdownOptionSchema :=
    (by decide : ["type", "prefixItems", "minItems", "maxItems"].Nodup)
  rw [holds_toJson hdistinct, dropdownOptionSchema, List.forall_mem_cons,
    List.forall_mem_cons, List.forall_mem_cons, List.forall_mem_singleton,
    Keyword.holds_type, Keyword.holds_itemsInOrder, Keyword.holds_minItems,
    Keyword.holds_maxItems, List.mem_singleton, typeName_eq_array]
  constructor
  · rintro ⟨⟨items, rfl⟩, hitems, hmin, hmax⟩
    have htwo : items.length = 2 := Nat.le_antisymm (hmax items rfl) (hmin items rfl)
    obtain ⟨label, stored, rfl⟩ := List.length_eq_two.1 htwo
    have hpairs := hitems _ rfl
    simp only [List.zip_cons_cons, List.zip_nil_left, List.forall_mem_cons,
      List.not_mem_nil, false_imp_iff, forall_const, and_true, holds_string,
      holds_label] at hpairs
    obtain ⟨hlabel, hstored⟩ := hpairs
    obtain ⟨s, rfl⟩ := Json.isString_iff.1 hstored
    obtain ⟨found, hfound⟩ := Option.isSome_iff_exists.1 hlabel
    simp [Dropdown.Choice.ofJson?, hfound, Json.string?]
  · intro hsome
    obtain ⟨choice, hchoice⟩ := Option.isSome_iff_exists.1 hsome
    unfold Dropdown.Choice.ofJson? at hchoice
    split at hchoice
    next label stored =>
      simp only [Option.bind_eq_bind, Option.bind_eq_some_iff] at hchoice
      obtain ⟨found, hlabel, s, hstored, -⟩ := hchoice
      obtain rfl := Json.eq_of_string? hstored
      refine ⟨⟨_, rfl⟩, ?_, ?_, ?_⟩
      · rintro _ ⟨⟩
        simp only [List.zip_cons_cons, List.zip_nil_left, List.forall_mem_cons,
          List.not_mem_nil, false_imp_iff, forall_const, and_true, holds_string, holds_label]
        exact ⟨Option.isSome_of_eq_some hlabel, rfl⟩
      · rintro _ ⟨⟩
        exact Nat.le_refl 2
      · rintro _ ⟨⟩
        exact Nat.le_refl 2
    next => contradiction

end Schema

end EditorBlocks
