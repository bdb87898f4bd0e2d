import EditorBlocks.Document.Read
import EditorBlocks.Proofs.Objects

/-!
# Ordered documents

A document is ordered when every object in it, at any depth, has ascending
keys.  Both readers give ordered documents only, so this is what the rest of the
library may expect of a document.
-/

namespace EditorBlocks

namespace Json

mutual

/-- Every object in the value has ascending keys. -/
def Ordered : Json → Prop
  | .list items => OrderedItems items
  | .object members => Object.Ascending members ∧ OrderedMembers members
  | .null | .bool _ | .number _ | .string _ => True

def OrderedItems : List Json → Prop
  | [] => True
  | item :: rest => Ordered item ∧ OrderedItems rest

def OrderedMembers : List (String × Json) → Prop
  | [] => True
  | (_, value) :: rest => Ordered value ∧ OrderedMembers rest

end

mutual

/-- Whether a value is ordered can be computed. -/
def decidableOrdered : (value : Json) → Decidable value.Ordered
  | .list items => decidableOrderedItems items
  | .object members =>
    have := decidableOrderedMembers members
    inferInstanceAs (Decidable (List.Pairwise (· < ·) (members.map Prod.fst) ∧
      OrderedMembers members))
  | .null | .bool _ | .number _ | .string _ => isTrue trivial

def decidableOrderedItems : (items : List Json) → Decidable (OrderedItems items)
  | [] => isTrue trivial
  | item :: rest =>
    have := decidableOrdered item
    have := decidableOrderedItems rest
    inferInstanceAs (Decidable (Ordered item ∧ OrderedItems rest))

def decidableOrderedMembers :
    (members : List (String × Json)) → Decidable (OrderedMembers members)
  | [] => isTrue trivial
  | (_, value) :: rest =>
    have := decidableOrdered value
    have := decidableOrderedMembers rest
    inferInstanceAs (Decidable (Ordered value ∧ OrderedMembers rest))

end

instance (value : Json) : Decidable value.Ordered := decidableOrdered value

theorem orderedItems_iff {items : List Json} :
    OrderedItems items ↔ ∀ item ∈ items, item.Ordered := by
  induction items with
  | nil => simp [OrderedItems]
  | cons item rest ih => simp [OrderedItems, ih]

theorem orderedMembers_iff {members : List (String × Json)} :
    OrderedMembers members ↔ ∀ m ∈ members, m.2.Ordered := by
  induction members with
  | nil => simp [OrderedMembers]
  | cons m rest ih => simp [OrderedMembers, ih]

theorem ordered_list {items : List Json} :
    (Json.list items).Ordered ↔ ∀ item ∈ items, item.Ordered := by
  rw [Ordered, orderedItems_iff]

theorem ordered_object {o : Object} :
    (Json.object o).Ordered ↔ o.Ascending ∧ ∀ m ∈ o, m.2.Ordered := by
  rw [Ordered, orderedMembers_iff]

theorem Ordered.of_get? {o : Object} (hordered : (Json.object o).Ordered)
    {key : String} {value : Json} (hvalue : o.get? key = some value) :
    value.Ordered :=
  (ordered_object.1 hordered).2 _ (Object.mem_of_get? hvalue)

/-! ## Documents that are read -/

theorem ordered_ofMembers {members : List (String × Json)}
    (hvalues : ∀ m ∈ members, m.2.Ordered) : (ofMembers members).Ordered := by
  refine ordered_object.2 ⟨Object.ascending_ofList members, fun m hmem => ?_⟩
  exact hvalues m (Object.mem_of_mem_ofList hmem)

mutual

theorem ordered_ordered : (value : Json) → (ordered value).Ordered
  | .list items => by
      rw [ordered]
      exact ordered_list.2 (ordered_orderedItems items)
  | .object members => by
      rw [ordered]
      exact ordered_ofMembers (ordered_orderedMembers members)
  | .null | .bool _ | .number _ | .string _ => trivial

theorem ordered_orderedItems :
    (items : List Json) → ∀ item ∈ orderedItems items, item.Ordered
  | [] => by simp [orderedItems]
  | item :: rest => by
      simpa [orderedItems] using ⟨ordered_ordered item, ordered_orderedItems rest⟩

theorem ordered_orderedMembers :
    (members : List (String × Json)) → ∀ m ∈ orderedMembers members, m.2.Ordered
  | [] => by simp [orderedMembers]
  | (_, value) :: rest => by
      intro m hmem
      rw [orderedMembers] at hmem
      rcases List.mem_cons.1 hmem with rfl | hmem
      · exact ordered_ordered value
      · exact ordered_orderedMembers rest m hmem

end

theorem ordered_of_read {text : String} {value : Json}
    (hread : Json.read text = .ok value) : value.Ordered := by
  unfold Json.read at hread
  cases hwanted : readWanted .whole text with
  | error e => simp [hwanted, Except.map] at hread
  | ok found =>
      simp only [hwanted, Except.map, Except.ok.injEq] at hread
      exact hread ▸ ordered_ordered found

end Json

namespace Yaml.Value

mutual

theorem ordered_of_toJson : (value : Value) → ∀ {json : Json},
    value.toJson = .ok json → json.Ordered
  | .null, _, h | .bool _, _, h | .int _, _, h | .string _, _, h => by
      simp only [toJson, Except.ok.injEq] at h
      exact h ▸ trivial
  | .float x, _, h => by
      simp only [toJson, Except.ok.injEq] at h
      subst h
      split <;> trivial
  | .list items, _, h => by
      cases hitems : itemsJson items with
      | error e => simp [toJson, hitems, bind, Except.bind] at h
      | ok found =>
          simp only [toJson, hitems, bind, Except.bind, pure, Except.pure,
            Except.ok.injEq] at h
          exact h ▸ Json.ordered_list.2 (ordered_of_itemsJson items hitems)
  | .mapping entries, _, h => by
      cases hentries : entriesJson entries with
      | error e => simp [toJson, hentries, bind, Except.bind] at h
      | ok found =>
          simp only [toJson, hentries, bind, Except.bind, pure, Except.pure,
            Except.ok.injEq] at h
          exact h ▸ Json.ordered_ofMembers (ordered_of_entriesJson entries hentries)
  | .tagged tag value, _, h => by
      cases hvalue : toJson value with
      | error e => simp [toJson, hvalue, bind, Except.bind] at h
      | ok found =>
          simp only [toJson, hvalue, bind, Except.bind, pure, Except.pure,
            Except.ok.injEq] at h
          subst h
          refine Json.ordered_object.2 ⟨List.pairwise_singleton .., ?_⟩
          simpa using ordered_of_toJson value hvalue

theorem ordered_of_itemsJson : (items : List Value) → ∀ {found : List Json},
    itemsJson items = .ok found → ∀ item ∈ found, item.Ordered
  | [], _, h => by
      simp only [itemsJson, Except.ok.injEq] at h
      simp [← h]
  | item :: rest, _, h => by
      cases hitem : toJson item with
      | error e => simp [itemsJson, hitem, bind, Except.bind] at h
      | ok first =>
          cases hrest : itemsJson rest with
          | error e => simp [itemsJson, hitem, hrest, bind, Except.bind] at h
          | ok others =>
              simp only [itemsJson, hitem, hrest, bind, Except.bind, pure,
                Except.pure, Except.ok.injEq] at h
              subst h
              simpa using
                ⟨ordered_of_toJson item hitem, ordered_of_itemsJson rest hrest⟩

theorem ordered_of_entriesJson : (entries : List (Value × Value)) →
    ∀ {found : List (String × Json)},
      entriesJson entries = .ok found → ∀ m ∈ found, m.2.Ordered
  | [], _, h => by
      simp only [entriesJson, Except.ok.injEq] at h
      simp [← h]
  | (key, value) :: rest, _, h => by
      cases hkey : keyText key with
      | error e => simp [entriesJson, hkey, bind, Except.bind] at h
      | ok name =>
          cases hvalue : toJson value with
          | error e => simp [entriesJson, hkey, hvalue, bind, Except.bind] at h
          | ok first =>
              cases hrest : entriesJson rest with
              | error e =>
                  simp [entriesJson, hkey, hvalue, hrest, bind, Except.bind] at h
              | ok others =>
                  simp only [entriesJson, hkey, hvalue, hrest, bind, Except.bind,
                    pure, Except.pure, Except.ok.injEq] at h
                  subst h
                  intro m hmem
                  rcases List.mem_cons.1 hmem with rfl | hmem
                  · exact ordered_of_toJson value hvalue
                  · exact ordered_of_entriesJson rest hrest m hmem

end

end Yaml.Value

/-- Whatever the format, a document that was read is ordered. -/
theorem Document.ordered_of_read {format : Format} {text path : String}
    {value : Json} (hread : Document.read format text path = .ok value) :
    value.Ordered := by
  unfold Document.read at hread
  cases format with
  | json =>
      cases hjson : Json.read text with
      | error e => simp [hjson, Except.mapError] at hread
      | ok found =>
          simp only [hjson, Except.mapError, Except.ok.injEq] at hread
          exact hread ▸ Json.ordered_of_read hjson
  | yaml =>
      cases hyaml : Yaml.Value.read text with
      | none => simp [hyaml] at hread
      | some found =>
          cases hjson : found.toJson with
          | error fault => simp [hyaml, hjson, Except.mapError] at hread
          | ok result =>
              simp only [hyaml, hjson, Except.mapError, Except.ok.injEq] at hread
              exact hread ▸ Yaml.Value.ordered_of_toJson found hjson

end EditorBlocks
