import EditorBlocks.Proofs.KeptRules
import EditorBlocks.Proofs.OrderedReports
import Mathlib.Data.List.Induction

/-!
# Finding repeated keys

Every entry with a key that came before is found, in the order of the entries and
together with the first entry that has the key.  One pass is enough for this: it has
to remember of each key only where it was seen first.
-/

namespace EditorBlocks.Validation

open Violations

variable {keys : List (Option String)}

/-! ## What is found -/

theorem pairwise_repeats (keys : List (Option String)) :
    ((repeats keys).map Prod.fst).Pairwise (· < ·) := by
  have hfound : repeats keys = foundAt id (earlier? keys) (List.range keys.length) := rfl
  rw [hfound]
  apply pairwise_foundAt
  rw [List.map_id]
  exact List.pairwise_lt_range

theorem repeats_eq_nil_iff : repeats keys = [] ↔ (keys.filterMap id).Nodup := by
  refine ⟨nodup_of_repeats, fun hnodup => ?_⟩
  rw [List.eq_nil_iff_forall_not_mem]
  rintro ⟨position, first⟩ hmem
  obtain ⟨hlt, key, hposition, hfirst, -⟩ := earlier?_eq_some_iff.1 (mem_repeats_iff.1 hmem)
  exact nodup_keys_iff.1 hnodup first position hlt key hfirst hposition

/-! ## One more entry -/

/-- Whether an entry repeats a key does not hang on what comes after it. -/
theorem earlier?_append_of_lt (more : List (Option String)) {i : Nat} (hlt : i < keys.length) :
    earlier? (keys ++ more) i = earlier? keys i := by
  have hsame : ∀ j, j ≤ i → (keys ++ more)[j]? = keys[j]? := fun j hle =>
    List.getElem?_append_left (Nat.lt_of_le_of_lt hle hlt)
  apply Option.ext
  intro first
  rw [earlier?_eq_some_iff, earlier?_eq_some_iff]
  refine and_congr_right fun hfirst => exists_congr fun name => ?_
  rw [hsame i (Nat.le_refl i), hsame first (Nat.le_of_lt hfirst)]
  refine and_congr_right fun _ => and_congr_right fun _ => ?_
  refine forall_congr' fun before => forall_congr' fun hbefore => ?_
  rw [hsame before (Nat.le_of_lt (Nat.lt_trans hbefore hfirst))]

/-- Of a key that comes next, the entries before tell whether it is repeated. -/
theorem earlier?_concat (keys : List (Option String)) (key : Option String) :
    earlier? (keys ++ [key]) keys.length = key.bind fun name => keys.idxOf? (some name) := by
  unfold earlier?
  rw [List.getElem?_concat_length]
  cases key with
  | none => rfl
  | some name =>
      change (if (keys ++ [some name]).idxOf (some name) < keys.length then
        some ((keys ++ [some name]).idxOf (some name)) else none) = keys.idxOf? (some name)
      cases hfirst : keys.idxOf? (some name) with
      | none =>
          rw [List.idxOf_append_of_notMem (List.idxOf?_eq_none_iff.1 hfirst)]
          exact if_neg (Nat.not_lt.2 (Nat.le_add_right _ _))
      | some first =>
          have hmem : some name ∈ keys := by
            obtain ⟨hbound, hentry, -⟩ := List.idxOf?_eq_some_iff.1 hfirst
            exact hentry ▸ List.getElem_mem hbound
          rw [List.idxOf_append_of_mem hmem, if_pos (List.idxOf_lt_length_of_mem hmem),
            List.idxOf_eq_getD_idxOf?, hfirst]
          rfl

theorem idxOf?_concat (keys : List (Option String)) (key : Option String) (name : String) :
    (keys ++ [key]).idxOf? (some name) =
      (keys.idxOf? (some name)).or (if key = some name then some keys.length else none) := by
  by_cases hsame : key = some name
  · simp [List.idxOf?, List.findIdx?_append, hsame]
  · simp [List.idxOf?, List.findIdx?_append, hsame]

theorem repeats_concat (keys : List (Option String)) (key : Option String) :
    repeats (keys ++ [key]) = repeats keys ++
      ((earlier? (keys ++ [key]) keys.length).map fun first => (keys.length, first)).toList := by
  unfold repeats
  rw [List.length_append, List.length_singleton, List.range_succ, List.filterMap_append]
  congr 1
  · apply List.filterMap_congr
    intro i hi
    rw [earlier?_append_of_lt [key] (List.mem_range.1 hi)]

/-! ## One pass -/

/-- A pass over entries: where it saw each key first, and what it found. -/
structure Pass where
  seen : List (String × Nat)
  found : List (Nat × Nat)

namespace Pass

/-- Goes on to the key at a position, if there is one. -/
def look (pass : Pass) : Option String × Nat → Pass
  | (none, _) => pass
  | (some name, position) =>
    match pass.seen.lookup name with
    | some first => { pass with found := pass.found ++ [(position, first)] }
    | none => { pass with seen := pass.seen ++ [(name, position)] }

def ofKeys (keys : List (Option String)) : Pass := keys.zipIdx.foldl look ⟨[], []⟩

theorem ofKeys_concat (keys : List (Option String)) (key : Option String) :
    ofKeys (keys ++ [key]) = (ofKeys keys).look (key, keys.length) := by
  rw [ofKeys, List.zipIdx_append, List.foldl_append, Nat.zero_add]
  rfl

section Step

variable (pass : Pass) (key : Option String) (position : Nat)

theorem found_look : (pass.look (key, position)).found = pass.found ++
    ((key.bind fun name => pass.seen.lookup name).map fun first => (position, first)).toList := by
  cases key with
  | none => simp [look]
  | some name =>
      cases hseen : pass.seen.lookup name with
      | none => simp [look, hseen]
      | some first => simp [look, hseen]

/-- Only a key that was not seen before is added to those that were. -/
theorem lookup_seen_look (name : String) : (pass.look (key, position)).seen.lookup name =
    (pass.seen.lookup name).or (if key = some name then some position else none) := by
  cases key with
  | none => simp [look]
  | some other =>
      cases hseen : pass.seen.lookup other with
      | none =>
          by_cases hsame : other = name
          · subst hsame
            simp [look, hseen, List.lookup_append]
          · have hother : (name == other) = false := beq_false_of_ne (Ne.symm hsame)
            simp [look, hseen, List.lookup_append, List.lookup_cons, hother, hsame]
      | some first =>
          by_cases hsame : other = name
          · subst hsame
            simp [look, hseen]
          · simp [look, hseen, hsame]

end Step

/-- What a pass knows once it has gone over these entries. -/
structure Knows (pass : Pass) (keys : List (Option String)) : Prop where
  seen : ∀ name, pass.seen.lookup name = keys.idxOf? (some name)
  found : pass.found = repeats keys

theorem Knows.look {pass : Pass} (hknows : pass.Knows keys) (key : Option String) :
    (pass.look (key, keys.length)).Knows (keys ++ [key]) := by
  constructor
  · intro name
    rw [lookup_seen_look, hknows.seen, idxOf?_concat]
  · rw [found_look, hknows.found, repeats_concat, earlier?_concat]
    simp only [hknows.seen]

theorem knows_ofKeys (keys : List (Option String)) : (ofKeys keys).Knows keys := by
  induction keys using List.reverseRecOn with
  | nil => exact ⟨fun _ => rfl, rfl⟩
  | append_singleton keys key ih =>
      rw [ofKeys_concat]
      exact ih.look key

/-- The entry at a position repeats a key exactly when the pass over the entries before
it has seen the key, and the first of them is where the pass saw it. -/
theorem earlier?_eq_lookup (keys : List (Option String)) (i : Nat) :
    earlier? keys i =
      keys[i]?.join.bind fun name => (ofKeys (keys.take i)).seen.lookup name := by
  cases hkey : keys[i]? with
  | none =>
      unfold earlier?
      rw [hkey]
      rfl
  | some key =>
      have hlt : i < keys.length := (List.getElem?_eq_some_iff.1 hkey).1
      have hlength : (keys.take i).length = i := List.length_take_of_le (Nat.le_of_lt hlt)
      have hnext : keys.take (i + 1) = keys.take i ++ [key] := by
        rw [List.take_add_one, hkey]
        rfl
      have hbound : i < (keys.take (i + 1)).length := by
        rw [List.length_take]
        omega
      calc earlier? keys i
          = earlier? (keys.take (i + 1) ++ keys.drop (i + 1)) i := by rw [List.take_append_drop]
        _ = earlier? (keys.take i ++ [key]) (keys.take i).length := by
            rw [earlier?_append_of_lt _ hbound, hnext, hlength]
        _ = key.bind fun name => (keys.take i).idxOf? (some name) := earlier?_concat ..
        _ = key.bind fun name => (ofKeys (keys.take i)).seen.lookup name := by
            simp only [(knows_ofKeys (keys.take i)).seen]

end Pass

/-- An entry is found exactly when it has a key and an earlier entry has the same; it
comes with the first entry that has the key, and after what was found before it.  So
nothing is found exactly when the keys that are there are distinct.  One pass that
remembers where it saw each key first finds the same. -/
theorem repeats_exact (keys : List (Option String)) :
    ((repeats keys).map Prod.fst).Pairwise (· < ·) ∧
    (∀ position first, (position, first) ∈ repeats keys ↔
      first < position ∧ ∃ key, keys[position]? = some (some key) ∧
        keys[first]? = some (some key) ∧
        ∀ before, before < first → keys[before]? ≠ some (some key)) ∧
    (repeats keys = [] ↔ (keys.filterMap id).Nodup) ∧
    (Pass.ofKeys keys).found = repeats keys := by
  refine ⟨pairwise_repeats keys, ?_, repeats_eq_nil_iff, (Pass.knows_ofKeys keys).found⟩
  intro position first
  rw [mem_repeats_iff, earlier?_eq_some_iff]

example : repeats [some "A", some "B", none, some "A", none, some "A"] = [(3, 0), (5, 0)] := by
  decide

end EditorBlocks.Validation
