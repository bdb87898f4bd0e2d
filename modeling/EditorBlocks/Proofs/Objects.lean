import EditorBlocks.Json.Basic
import Mathlib.Data.List.Induction
import Mathlib.Data.List.Nodup

/-!
# Objects as maps

An object with ascending keys is the map from its keys to its values: two such
objects are equal when they agree at every key.  So an object that is built in
any order of its members can be compared with one that is cut out of another,
key by key.
-/

namespace EditorBlocks

namespace Object

theorem mem_of_get? {o : Object} {key : String} {value : Json}
    (hvalue : o.get? key = some value) : (key, value) ∈ o := by
  obtain ⟨before, after, heq, -⟩ := List.lookup_eq_some_iff.1 hvalue
  simp [heq]

theorem mem_keys_of_mem {o : Object} {m : String × Json} (hmem : m ∈ o) :
    m.1 ∈ o.keys :=
  List.mem_map_of_mem hmem

theorem get?_eq_none_iff {o : Object} {key : String} :
    o.get? key = none ↔ key ∉ o.keys := by
  simp only [get?, List.lookup_eq_none_iff, keys, List.mem_map, not_exists,
    not_and, bne_iff_ne, ne_eq, eq_comm (a := key)]

/-! ## Ascending objects -/

theorem Ascending.get?_eq_some_iff {o : Object} (hasc : o.Ascending)
    {key : String} {value : Json} :
    o.get? key = some value ↔ (key, value) ∈ o := by
  refine ⟨mem_of_get?, ?_⟩
  induction o with
  | nil => simp
  | cons m rest ih =>
      obtain ⟨hm, hrest⟩ := List.pairwise_cons.1 hasc
      intro hmem
      rw [get?_cons]
      rcases List.mem_cons.1 hmem with rfl | hmem
      · simp
      · have hlt : m.1 < key := hm key (mem_keys_of_mem hmem)
        rw [if_neg fun heq => String.lt_irrefl _ (heq ▸ hlt)]
        exact ih hrest hmem

theorem Ascending.nodup {o : Object} (hasc : o.Ascending) : o.Nodup := by
  have hkeys : o.keys.Nodup := by
    refine List.Pairwise.imp (fun {a b} hlt heq => ?_) hasc
    exact String.lt_irrefl b (heq ▸ hlt)
  exact hkeys.of_map

theorem Ascending.ext {a b : Object} (ha : a.Ascending) (hb : b.Ascending)
    (hget : ∀ key, a.get? key = b.get? key) : a = b := by
  have hmem : ∀ m, m ∈ a ↔ m ∈ b := by
    intro m
    rw [← ha.get?_eq_some_iff, ← hb.get?_eq_some_iff, hget]
  have hperm : a.Perm b :=
    (List.perm_ext_iff_of_nodup ha.nodup hb.nodup).2 hmem
  refine hperm.eq_of_pairwise (fun m m' _ _ hlt hgt => ?_)
    (List.pairwise_map.1 ha) (List.pairwise_map.1 hb)
  exact (String.lt_irrefl _ (String.lt_trans hlt hgt)).elim

/-! ## Objects built from lists of members -/

/-- A repeated key keeps its last value. -/
theorem get?_ofList (members : List (String × Json)) (key : String) :
    (ofList members).get? key = get? members.reverse key := by
  induction members using List.reverseRecOn with
  | nil => rfl
  | append_singleton rest m ih =>
      have hinsert : ofList (rest ++ [m]) = (ofList rest).insert m.1 m.2 := by
        simp [ofList]
      rw [hinsert, get?_insert, ih, List.reverse_append, List.reverse_singleton,
        List.singleton_append, get?_cons]

theorem mem_of_mem_ofList {members : List (String × Json)} {m : String × Json}
    (hmem : m ∈ ofList members) : m ∈ members := by
  have hget : (ofList members).get? m.1 = some m.2 :=
    (ascending_ofList members).get?_eq_some_iff.2 hmem
  rw [get?_ofList] at hget
  exact List.mem_reverse.1 (mem_of_get? hget)

/-- The member under a key, if there is one. -/
def member (o : Object) (key : String) : Object :=
  ((o.get? key).map fun value => (key, value)).toList

theorem mem_member {o : Object} {key : String} {m : String × Json} :
    m ∈ o.member key ↔ m.1 = key ∧ o.get? key = some m.2 := by
  simp only [member, Option.mem_toList, Option.map_eq_some_iff]
  constructor
  · rintro ⟨value, hvalue, rfl⟩
    exact ⟨rfl, hvalue⟩
  · rintro ⟨rfl, hvalue⟩
    exact ⟨m.2, hvalue, rfl⟩

theorem member_of_get? {o : Object} {key : String} {value : Json}
    (hvalue : o.get? key = some value) : o.member key = [(key, value)] := by
  simp [member, hvalue]

theorem member_of_none {o : Object} {key : String} (hnone : o.get? key = none) :
    o.member key = [] := by
  simp [member, hnone]

/-- What is read from under a key and written again is the member there, when
reading and writing is the change that the value goes through. -/
theorem member_eq_of_read {α : Type} {n o : Object} {key : String}
    {read : Json → Option α} {write : α → Json} {change : Json → Json}
    (hget : n.get? key = (o.get? key).map change)
    (hvalue : ∀ value, o.get? key = some value →
      (read value).map write = some (change value)) :
    n.member key = (((o.get? key).bind read).map fun x => (key, write x)).toList := by
  rw [member, hget]
  cases hthere : o.get? key with
  | none => rfl
  | some value =>
      obtain ⟨x, hx, hwrite⟩ := Option.map_eq_some_iff.1 (hvalue value hthere)
      simp [hx, hwrite]

/-- Members that an ascending object has are the members under their keys. -/
theorem Ascending.flatMap_member {o part : Object} (hasc : o.Ascending)
    (hpart : ∀ m ∈ part, m ∈ o) : part.keys.flatMap o.member = part := by
  induction part with
  | nil => rfl
  | cons m rest ih =>
      obtain ⟨hm, hrest⟩ := List.forall_mem_cons.1 hpart
      have hget : o.get? m.1 = some m.2 := hasc.get?_eq_some_iff.2 hm
      rw [keys, List.map_cons, List.flatMap_cons, member_of_get? hget]
      exact congrArg (m :: ·) (ih hrest)

/-- Collecting the members under all keys of an object, in any order and with
repetitions, gives the object back. -/
theorem Ascending.ofList_flatMap_member {o : Object} (hasc : o.Ascending)
    {keys : List String} (hkeys : ∀ key ∈ o.keys, key ∈ keys) :
    ofList (keys.flatMap o.member) = o := by
  refine (ascending_ofList _).ext hasc fun key => ?_
  rw [get?_ofList]
  have hmem : ∀ value,
      (key, value) ∈ (keys.flatMap o.member).reverse ↔
        key ∈ keys ∧ o.get? key = some value := by
    intro value
    simp only [List.mem_reverse, List.mem_flatMap, mem_member]
    constructor
    · rintro ⟨_, hkey, rfl, hvalue⟩
      exact ⟨hkey, hvalue⟩
    · rintro ⟨hkey, hvalue⟩
      exact ⟨key, hkey, rfl, hvalue⟩
  cases hvalue : o.get? key with
  | some value =>
      have hkey : key ∈ keys := hkeys key (mem_keys_of_mem (mem_of_get? hvalue))
      have hthere : (key, value) ∈ (keys.flatMap o.member).reverse :=
        (hmem value).2 ⟨hkey, hvalue⟩
      cases hfound : get? (keys.flatMap o.member).reverse key with
      | none => exact (get?_eq_none_iff.1 hfound (mem_keys_of_mem hthere)).elim
      | some found =>
          rw [← hvalue, ((hmem found).1 (mem_of_get? hfound)).2]
  | none =>
      rw [get?_eq_none_iff]
      intro hkey
      obtain ⟨⟨_, value⟩, hthere, rfl⟩ := List.mem_map.1 hkey
      have := ((hmem value).1 hthere).2
      rw [hvalue] at this
      contradiction

/-! ## Keeping some members and changing their values -/

/-- The members whose keys are kept, each with its value changed. -/
def refine (keep : String → Bool) (change : String → Json → Json) (o : Object) : Object :=
  (o.filter fun m => keep m.1).map fun m => (m.1, change m.1 m.2)

@[simp]
theorem get?_refine (keep : String → Bool) (change : String → Json → Json)
    (o : Object) (key : String) :
    (o.refine keep change).get? key =
      if keep key then (o.get? key).map (change key) else none := by
  induction o with
  | nil => simp [refine]
  | cons m rest ih =>
      unfold refine at ih ⊢
      by_cases hkeep : keep m.1 <;> by_cases heq : key = m.1 <;>
        simp_all [get?_cons]

@[simp]
theorem keys_refine (keep : String → Bool) (change : String → Json → Json)
    (o : Object) : (o.refine keep change).keys = o.keys.filter keep := by
  simp [refine, keys, List.filter_map, Function.comp_def]

theorem Ascending.refine {o : Object} (hasc : o.Ascending)
    (keep : String → Bool) (change : String → Json → Json) :
    (o.refine keep change).Ascending := by
  rw [Ascending, keys_refine]
  exact hasc.sublist List.filter_sublist

/-- What is left of an object can be built from its members in any order. -/
theorem Ascending.ofMembers_eq_refine {o : Object} (hasc : o.Ascending)
    {keep : String → Bool} {change : String → Json → Json} {keys : List String}
    {members : Object} (hkeys : ∀ key, keep key = true → key ∈ keys)
    (hmembers : keys.flatMap (o.refine keep change).member = members) :
    Json.ofMembers members = .object (o.refine keep change) := by
  have hall : ∀ key ∈ (o.refine keep change).keys, key ∈ keys := by
    intro key hkey
    rw [keys_refine] at hkey
    exact hkeys key (List.mem_filter.1 hkey).2
  rw [Json.ofMembers, ← hmembers, (hasc.refine keep change).ofList_flatMap_member hall]

end Object

end EditorBlocks
