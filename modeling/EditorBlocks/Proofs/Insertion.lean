import EditorBlocks.Proofs.Objects

/-!
# Adding a member to an object

An ascending object can be cut at a key: the members before it are smaller and
those after it are greater.  A new key is put into the cut, and a key that is
there already keeps its place.
-/

namespace EditorBlocks.Object

variable {o : Object} {key : String}

theorem insert_append {before : Object} (hbefore : ∀ m ∈ before, m.1 < key) (value : Json)
    (rest : Object) :
    insert key value (before ++ rest) = before ++ insert key value rest := by
  induction before with
  | nil => rfl
  | cons m others ih =>
      obtain ⟨hm, hothers⟩ := List.forall_mem_cons.1 hbefore
      have hne : key ≠ m.1 := fun heq => String.lt_irrefl _ (heq ▸ hm)
      rw [List.cons_append, insert, if_neg (String.lt_asymm hm), if_neg hne, ih hothers]
      rfl

theorem insert_eq_cons {after : Object} (hafter : ∀ m ∈ after, key < m.1) (value : Json) :
    insert key value after = (key, value) :: after := by
  cases after with
  | nil => rfl
  | cons m rest => exact if_pos (hafter m List.mem_cons_self)

/-! ## A new key -/

/-- The two parts of an object, before a key and after it. -/
structure Cut (o : Object) (key : String) (before after : Object) : Prop where
  eq : o = before ++ after
  before : ∀ m ∈ before, m.1 < key
  after : ∀ m ∈ after, key < m.1

theorem Ascending.exists_cut (hasc : o.Ascending) (hnew : o.get? key = none) :
    ∃ before after, Cut o key before after := by
  induction o with
  | nil => exact ⟨[], [], rfl, nofun, nofun⟩
  | cons m rest ih =>
      obtain ⟨hm, hrest⟩ := List.pairwise_cons.1 hasc
      have hkeys : m.1 ≠ key ∧ key ∉ keys rest := by
        have hnot := get?_eq_none_iff.1 hnew
        rw [keys, List.map_cons, List.mem_cons, not_or] at hnot
        exact ⟨Ne.symm hnot.1, hnot.2⟩
      by_cases hlt : m.1 < key
      · obtain ⟨before, after, heq, hbefore, hafter⟩ := ih hrest (get?_eq_none_iff.2 hkeys.2)
        refine ⟨m :: before, after, congrArg (m :: ·) heq, ?_, hafter⟩
        exact List.forall_mem_cons.2 ⟨hlt, hbefore⟩
      · have hgt : key < m.1 := Std.lt_of_le_of_ne (Std.not_lt.1 hlt) hkeys.1.symm
        refine ⟨[], m :: rest, rfl, nofun, List.forall_mem_cons.2 ⟨hgt, fun other hother => ?_⟩⟩
        exact String.lt_trans hgt (hm other.1 (mem_keys_of_mem hother))

namespace Cut

variable {before after : Object}

theorem insert_eq (hcut : Cut o key before after) (value : Json) :
    o.insert key value = before ++ (key, value) :: after := by
  rw [hcut.eq, insert_append hcut.before, insert_eq_cons hcut.after]

/-- Leaving members out does not move the cut. -/
theorem filter (hcut : Cut o key before after) (keep : String × Json → Bool) :
    Cut (o.filter keep) key (before.filter keep) (after.filter keep) where
  eq := by rw [hcut.eq, List.filter_append]
  before := fun m hm => hcut.before m (List.mem_filter.1 hm).1
  after := fun m hm => hcut.after m (List.mem_filter.1 hm).1

/-- The keys on the two sides of the cut. -/
theorem filter_keys (hcut : Cut o key before after) :
    (o.keys.filter (· < key)) = before.keys ∧ (o.keys.filter (key < ·)) = after.keys := by
  have hbefore : ∀ other ∈ before.keys, other < key := by
    intro other hother
    obtain ⟨m, hm, rfl⟩ := List.mem_map.1 hother
    exact hcut.before m hm
  have hafter : ∀ other ∈ after.keys, key < other := by
    intro other hother
    obtain ⟨m, hm, rfl⟩ := List.mem_map.1 hother
    exact hcut.after m hm
  have hkeys : o.keys = before.keys ++ after.keys := by
    rw [hcut.eq, keys, List.map_append, keys, keys]
  have hbelow : ∀ other ∈ after.keys, ¬other < key :=
    fun other hother => String.lt_asymm (hafter other hother)
  have habove : ∀ other ∈ before.keys, ¬key < other :=
    fun other hother => String.lt_asymm (hbefore other hother)
  rw [hkeys, List.filter_append, List.filter_append]
  constructor
  · rw [List.filter_eq_self.2 (by simpa using hbefore),
      List.filter_eq_nil_iff.2 (by simpa using hbelow), List.append_nil]
  · rw [List.filter_eq_nil_iff.2 (by simpa using habove),
      List.filter_eq_self.2 (by simpa using hafter), List.nil_append]

end Cut

theorem Ascending.filter_insert (hasc : o.Ascending) (hnew : o.get? key = none) {value : Json}
    {keep : String × Json → Bool} (hkeep : keep (key, value) = true) :
    (o.insert key value).filter keep = Object.insert key value (o.filter keep) := by
  obtain ⟨before, after, hcut⟩ := hasc.exists_cut hnew
  rw [hcut.insert_eq, (hcut.filter keep).insert_eq, List.filter_append,
    List.filter_cons_of_pos hkeep]

/-- Members that are left out can be added before. -/
theorem refine_insert {keep : String → Bool} (hkeep : keep key = false)
    (change : String → Json → Json) (value : Json) (o : Object) :
    (o.insert key value).refine keep change = o.refine keep change := by
  have hfilter : (o.insert key value).filter (fun m => keep m.1) =
      o.filter fun m => keep m.1 := by
    induction o with
    | nil => simp [insert, hkeep]
    | cons m rest ih =>
        unfold insert
        split
        · rw [List.filter_cons_of_neg (by simp [hkeep])]
        · split
          next heq =>
            subst heq
            rw [List.filter_cons_of_neg (by simp [hkeep]),
              List.filter_cons_of_neg (by simp [hkeep])]
          next =>
            rw [List.filter_cons, List.filter_cons, ih]
  rw [refine, hfilter, refine]

/-! ## A key that is there -/

theorem Ascending.keys_insert (hasc : o.Ascending) (hthere : key ∈ o.keys) (value : Json) :
    (o.insert key value).keys = o.keys := by
  induction o with
  | nil => contradiction
  | cons m rest ih =>
      obtain ⟨hm, hrest⟩ := List.pairwise_cons.1 hasc
      rw [keys, List.map_cons, List.mem_cons] at hthere
      rcases hthere with rfl | hlater
      · rw [Object.insert, if_neg (String.lt_irrefl m.1), if_pos rfl]
        rfl
      · have hlt : m.1 < key := hm key hlater
        have hne : key ≠ m.1 := fun heq => String.lt_irrefl _ (heq ▸ hlt)
        rw [Object.insert, if_neg (String.lt_asymm hlt), if_neg hne, keys, List.map_cons]
        exact congrArg (m.1 :: ·) (ih hrest hlater)

/-- Putting a value where it is changes nothing. -/
theorem Ascending.insert_self (hasc : o.Ascending) {value : Json}
    (hvalue : o.get? key = some value) : o.insert key value = o := by
  refine (hasc.insert key value).ext hasc fun other => ?_
  rw [get?_insert]
  split
  next heq => rw [heq, hvalue]
  next => rfl

end EditorBlocks.Object
