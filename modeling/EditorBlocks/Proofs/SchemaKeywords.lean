import EditorBlocks.Proofs.SchemaMeaning
import EditorBlocks.Proofs.Shapes
import Mathlib.Data.List.Nodup

/-!
# Keywords as they are written

A schema is put together from keywords and then written as a document.  The
meaning of the document is that of its keywords, as long as none of them is
written twice, and each keyword means what its name says.
-/

namespace EditorBlocks

namespace Object

theorem get?_eq_some_iff_of_nodup {o : Object} (hnodup : o.keys.Nodup) {key : String}
    {value : Json} : o.get? key = some value ↔ (key, value) ∈ o := by
  refine ⟨mem_of_get?, fun hmem => ?_⟩
  induction o with
  | nil => contradiction
  | cons m rest ih =>
      obtain ⟨hfresh, hnodup⟩ := List.nodup_cons.1 hnodup
      rw [get?_cons]
      rcases List.mem_cons.1 hmem with rfl | hrest
      · rw [if_pos rfl]
      · have hne : key ≠ m.1 := by
          rintro rfl
          exact hfresh (mem_keys_of_mem (m := (m.1, value)) hrest)
        rw [if_neg hne]
        exact ih hnodup hrest

/-- Where no key is repeated, members are put in order and none is lost. -/
theorem mem_ofList {members : Object} (hnodup : members.keys.Nodup) {m : String × Json} :
    m ∈ ofList members ↔ m ∈ members := by
  have hreverse : (keys members.reverse).Nodup := by
    rw [keys, List.map_reverse]
    exact List.nodup_reverse.2 hnodup
  rw [← (ascending_ofList members).get?_eq_some_iff, get?_ofList,
    get?_eq_some_iff_of_nodup hreverse, List.mem_reverse]

end Object

namespace Schema

open JsonSchema

variable {references : String → Json → Bool} {done : Nat} {value : Json}

def readingOf (references : String → Json → Bool) (argument : Json) : Reading :=
  ⟨holds references argument, itemReadings references argument,
    namedReadings references argument⟩

theorem membersHold_iff {members : List (String × Json)} :
    membersHold references done members value = true ↔
      ∀ m ∈ members, keywordHolds references done m.1 m.2 (readingOf references m.2) value =
        true := by
  induction members with
  | nil => simp [membersHold]
  | cons m rest ih =>
      obtain ⟨keyword, argument⟩ := m
      rw [membersHold, Bool.and_eq_true, ih, List.forall_mem_cons]
      rfl

/-- What a keyword of a schema says, as it is written. -/
def Keyword.Holds (references : String → Json → Bool) (done : Nat) (k : Keyword)
    (value : Json) : Prop :=
  keywordHolds references done (keywordMember k).1 (keywordMember k).2
    (readingOf references (keywordMember k).2) value = true

def Keyword.key (k : Keyword) : String := (keywordMember k).1

namespace JsonSchema

theorem members_eq_map (schema : JsonSchema) : members schema = schema.map keywordMember := by
  induction schema with
  | nil => simp [members]
  | cons k rest ih => rw [members, ih, List.map_cons]

theorem listJson_eq_map (schemas : List JsonSchema) : listJson schemas = schemas.map toJson := by
  induction schemas with
  | nil => simp [listJson]
  | cons schema rest ih => rw [listJson, ih, List.map_cons, toJson]

theorem namedJson_eq_map (schemas : List (String × JsonSchema)) :
    namedJson schemas = schemas.map fun m => (m.1, toJson m.2) := by
  induction schemas with
  | nil => simp [namedJson]
  | cons m rest ih =>
      obtain ⟨name, schema⟩ := m
      rw [namedJson, ih, List.map_cons, toJson]

/-- No keyword is written twice. -/
def Distinct (schema : JsonSchema) : Prop := (schema.map Keyword.key).Nodup

instance (schema : JsonSchema) : Decidable schema.Distinct :=
  inferInstanceAs (Decidable (List.Nodup _))

/-- How many items the schema leaves to schemas of their own. -/
def positions (schema : JsonSchema) : Nat := prefixLength (Object.ofList (members schema))

theorem holds_toJson {schema : JsonSchema} (hdistinct : schema.Distinct) :
    holds references schema.toJson value = true ↔
      ∀ k ∈ schema, k.Holds references schema.positions value := by
  have hnodup : (Object.keys (schema.map keywordMember)).Nodup := by
    rwa [Object.keys, List.map_map]
  rw [toJson, Json.ofMembers, holds, membersHold_iff, members_eq_map]
  constructor
  · intro hmembers k hk
    rw [Keyword.Holds, positions, members_eq_map]
    exact hmembers _ ((Object.mem_ofList hnodup).2 (List.mem_map_of_mem hk))
  · intro hkeywords m hm
    obtain ⟨k, hk, rfl⟩ := List.mem_map.1 ((Object.mem_ofList hnodup).1 hm)
    have hk := hkeywords k hk
    rwa [Keyword.Holds, positions, members_eq_map] at hk

theorem positions_eq_zero {schema : JsonSchema}
    (hkeys : ∀ k ∈ schema, k.key ≠ "prefixItems") : schema.positions = 0 := by
  have hnone : (Object.ofList (members schema)).get? "prefixItems" = none := by
    rw [Object.get?_ofList, Object.get?_eq_none_iff, members_eq_map]
    intro hmem
    simp only [Object.keys, List.map_reverse, List.mem_reverse, List.map_map,
      List.mem_map] at hmem
    obtain ⟨k, hk, hkey⟩ := hmem
    exact hkeys k hk hkey
  rw [positions, prefixLength, hnone]
  rfl

end JsonSchema

/-! ## Single keywords -/

theorem strings?_ofStrings (names : List String) :
    (Json.ofStrings names).strings? = some names :=
  Json.mapM_string? names

theorem namesIn_ofStrings (names : List String) : namesIn (.ofStrings names) = names := by
  change (Json.ofStrings names).strings?.getD [] = names
  rw [strings?_ofStrings, Option.getD_some]

theorem namesIn_typeJson (names : List String) : namesIn (typeJson names) = names := by
  unfold typeJson
  split
  · rfl
  · exact namesIn_ofStrings _

theorem itemReadings_listJson (schemas : List JsonSchema) :
    itemReadings references (.list (listJson schemas)) =
      schemas.map fun schema => holds references schema.toJson := by
  rw [listJson_eq_map, itemReadings]
  induction schemas with
  | nil => rfl
  | cons schema rest ih => rw [List.map_cons, listReadings, ih, List.map_cons]

theorem memberReadings_eq_map (members : Object) :
    memberReadings references members = members.map fun m => (m.1, holds references m.2) := by
  induction members with
  | nil => rfl
  | cons m rest ih =>
      obtain ⟨name, schema⟩ := m
      rw [memberReadings, ih, List.map_cons]

section Views

variable {p : Object → Bool} {q : List Json → Bool} {r : Number → Bool}

theorem all_object? :
    value.object?.all p = true ↔ ∀ o, value = .object o → p o = true := by
  cases value <;> simp [Json.object?]

theorem all_list? :
    value.list?.all q = true ↔ ∀ items, value = .list items → q items = true := by
  cases value <;> simp [Json.list?]

theorem all_number? :
    value.number?.all r = true ↔ ∀ n, value = .number n → r n = true := by
  cases value <;> simp [Json.number?]

end Views

namespace Keyword

theorem holds_type {names : List String} :
    (Keyword.type names).Holds references done value ↔ typeName value ∈ names := by
  change (namesIn (typeJson names)).contains (typeName value) = true ↔ _
  rw [namesIn_typeJson, List.contains_iff_mem]

theorem holds_const {text : String} :
    (Keyword.const text).Holds references done value ↔ value = .string text := by
  change decide (value = .string text) = true ↔ _
  exact decide_eq_true_iff

theorem holds_enumeration {texts : List String} :
    (Keyword.enumeration texts).Holds references done value ↔
      ∃ text ∈ texts, value = .string text := by
  change (texts.map Json.string).contains value = true ↔ _
  simp [eq_comm]

theorem holds_required {keys : List String} :
    (Keyword.required keys).Holds references done value ↔
      ∀ o : Object, value = .object o → ∀ key ∈ keys, o.has key = true := by
  change (value.object?.all fun o => (namesIn (.ofStrings keys)).all o.has) = true ↔ _
  simp [namesIn_ofStrings, all_object?]

theorem holds_properties {schemas : List (String × JsonSchema)}
    (hnodup : (schemas.map Prod.fst).Nodup) :
    (Keyword.properties schemas).Holds references done value ↔
      ∀ o : Object, value = .object o → ∀ m ∈ schemas, ∀ found, o.get? m.1 = some found →
        holds references m.2.toJson found = true := by
  have hkeys : (Object.keys (schemas.map fun m => (m.1, m.2.toJson))).Nodup := by
    rwa [Object.keys, List.map_map]
  change (value.object?.all fun o =>
    (namedReadings references (.ofMembers (namedJson schemas))).all fun reading =>
      (o.get? reading.1).all reading.2) = true ↔ _
  simp only [Json.ofMembers, namedReadings, memberReadings_eq_map, all_object?,
    namedJson_eq_map, List.all_map, List.all_eq_true, Function.comp_apply]
  refine forall₂_congr fun o _ => ?_
  simp only [Object.mem_ofList hkeys, List.forall_mem_map]
  refine forall₂_congr fun m _ => ?_
  cases Object.get? o m.1 <;> simp

theorem holds_items {schema : JsonSchema} :
    (Keyword.items schema).Holds references done value ↔
      ∀ items, value = .list items → ∀ item ∈ items.drop done,
        holds references schema.toJson item = true := by
  change (value.list?.all fun items =>
    (items.drop done).all (holds references schema.toJson)) = true ↔ _
  simp only [all_list?, List.all_eq_true]

theorem holds_itemsInOrder {schemas : List JsonSchema} :
    (Keyword.itemsInOrder schemas).Holds references done value ↔
      ∀ items, value = .list items → ∀ p ∈ items.zip schemas,
        holds references p.2.toJson p.1 = true := by
  change (value.list?.all fun items =>
    (items.zip (itemReadings references (.list (listJson schemas)))).all
      fun reading => reading.2 reading.1) = true ↔ _
  simp only [all_list?, itemReadings_listJson, List.zip_map_right, List.all_map,
    List.all_eq_true, Function.comp_apply, Prod.map, id_eq]

theorem holds_minItems {count : Nat} :
    (Keyword.minItems count).Holds references done value ↔
      ∀ items, value = .list items → count ≤ items.length := by
  change (value.list?.all fun items =>
    !decide ((items.length : Int) < (count : Int))) = true ↔ _
  simp [all_list?]

theorem holds_maxItems {count : Nat} :
    (Keyword.maxItems count).Holds references done value ↔
      ∀ items, value = .list items → items.length ≤ count := by
  change (value.list?.all fun items =>
    !decide ((count : Int) < (items.length : Int))) = true ↔ _
  simp [all_list?]

theorem holds_minimum {bound : Nat} :
    (Keyword.minimum bound).Holds references done value ↔
      ∀ n, value = .number n → Number.atMost (.int bound) n = true := by
  change (value.number?.all fun n => Number.atMost (.int bound) n) = true ↔ _
  exact all_number?

theorem holds_oneOf {schemas : List JsonSchema} :
    (Keyword.oneOf schemas).Holds references done value ↔
      (schemas.countP fun schema => holds references schema.toJson value) = 1 := by
  change decide ((itemReadings references (.list (listJson schemas))).countP
    (fun holds => holds value) = 1) = true ↔ _
  rw [decide_eq_true_iff, itemReadings_listJson, List.countP_map]
  rfl

theorem holds_anyOf {schemas : List JsonSchema} :
    (Keyword.anyOf schemas).Holds references done value ↔
      ∃ schema ∈ schemas, holds references schema.toJson value = true := by
  change (itemReadings references (.list (listJson schemas))).any
    (fun holds => holds value) = true ↔ _
  simp [itemReadings_listJson]

theorem holds_allOf {schemas : List JsonSchema} :
    (Keyword.allOf schemas).Holds references done value ↔
      ∀ schema ∈ schemas, holds references schema.toJson value = true := by
  change (itemReadings references (.list (listJson schemas))).all
    (fun holds => holds value) = true ↔ _
  simp [itemReadings_listJson]

theorem holds_not {schema : JsonSchema} :
    (Keyword.not schema).Holds references done value ↔
      ¬holds references schema.toJson value = true := by
  change (!holds references schema.toJson value) = true ↔ _
  simp

theorem holds_reference {name : String} :
    (Keyword.reference name).Holds references done value ↔
      references ("#/$defs/" ++ name) value = true :=
  Iff.rfl

theorem holds_definitions {schemas : List (String × JsonSchema)} :
    (Keyword.definitions schemas).Holds references done value :=
  rfl

/-- Any name will do that is not one of a keyword. -/
theorem holds_remark {key text : String}
    (hremark : key ∈ ["$schema", "title", "description"]) :
    (Keyword.remark key text).Holds references done value := by
  simp only [List.mem_cons, List.not_mem_nil, or_false] at hremark
  rcases hremark with rfl | rfl | rfl <;> rfl

end Keyword

end Schema

end EditorBlocks
