import EditorBlocks.Proofs.Contexts

/-!
# Counted references

The placeholder check runs over the references of a message with a count for each
argument and a list of the numbers that were reported as repeated.  After any number
of steps the counts are how often the numbers came so far, and the numbers in the
list are those that came twice.  So a step tells what the numbers before it decide,
and at the end the arguments with a count of zero are those that no reference names.
-/

namespace EditorBlocks.Validation

open Template Violations

/-! ## Reports by the numbers before -/

/-- The violation of one reference, after the numbers that came `before` it: it
is out of range, or the second one to its argument. -/
def checkReference (i : Fin slotCount) (count : Nat) (before : List Nat)
    (reference : Nat × String) : Violations :=
  let (n, written) := reference
  if n = 0 ∨ count < n then
    [(Finding.placeholderOutOfRange n written count (argumentsKey i)).violation
      [.key (messageKey i)]]
  else if before.count n = 1 then
    [(Finding.duplicatePlaceholder n).violation [.key (messageKey i)]]
  else []

def checkReferences (i : Fin slotCount) (count : Nat) (before : List Nat) :
    List (Nat × String) → Violations
  | [] => []
  | reference :: rest =>
    checkReference i count before reference ++
      checkReferences i count (before ++ [reference.1]) rest

/-- The violation of the argument at a position: no placeholder names it. -/
def checkReferenced (i : Fin slotCount) (numbers : List Nat) (position : Nat)
    (name : Option String) : Violations :=
  if numbers.contains (position + 1) then []
  else
    [(Finding.unreferencedArgument (position + 1) name (messageKey i)).violation
      [.key (argumentsKey i), .index position]]

/-! ## The tally -/

namespace Tally

/-- The tally tells how often each argument was named by the numbers `before`, and
which of them came more than once. -/
structure Counts (count : Nat) (before : List Nat) (tally : Tally) : Prop where
  counts : tally.counts = (List.range count).map fun position => before.count (position + 1)
  reported : ∀ n, 1 ≤ n → n ≤ count → (n ∈ tally.reported ↔ 2 ≤ before.count n)

section

variable {i : Fin slotCount} {count : Nat} {before : List Nat} {tally : Tally}

theorem counts_start (count : Nat) : Counts count [] (start count) := by
  refine ⟨?_, ?_⟩
  · simp [start, List.map_const']
  · simp [start]

theorem Counts.getD (hcounts : Counts count before tally) {n : Nat} (hn : 1 ≤ n ∧ n ≤ count) :
    (tally.counts.modify (n - 1) (· + 1)).getD (n - 1) 0 = before.count n + 1 := by
  have hlt : n - 1 < count := by omega
  have hnumber : n - 1 + 1 = n := by omega
  simp [hcounts.counts, List.getD_eq_getElem?_getD, hlt, hnumber]

/-- A number that no argument has changes no count. -/
theorem Counts.outside (hcounts : Counts count before tally) {n : Nat}
    (hn : n = 0 ∨ count < n) : Counts count (before ++ [n]) tally := by
  have hcount : ∀ k, 1 ≤ k → k ≤ count → (before ++ [n]).count k = before.count k := by
    intro k hpos hle
    have hne : n ≠ k := by omega
    simp [hne]
  refine ⟨hcounts.counts.trans ?_, ?_⟩
  · refine List.map_congr_left fun position hposition => (hcount _ (by omega) ?_).symm
    exact List.mem_range.1 hposition
  · intro k hpos hle
    rw [hcount k hpos hle]
    exact hcounts.reported k hpos hle

theorem Counts.modify (hcounts : Counts count before tally) {n : Nat}
    (hn : 1 ≤ n ∧ n ≤ count) :
    tally.counts.modify (n - 1) (· + 1) =
      (List.range count).map fun position => (before ++ [n]).count (position + 1) := by
  rw [hcounts.counts]
  refine List.ext_getElem (by simp) fun position hleft hright => ?_
  have hposition : position < count := by simpa using hright
  by_cases hsame : n = position + 1
  · subst hsame
    simp
  · have hother : n - 1 ≠ position := by omega
    rw [List.getElem_modify_ne _ _ hother]
    simp [hsame]

/-- One step tells what the numbers before decide, and goes on to the number. -/
theorem Counts.look (hcounts : Counts count before tally) (reference : Nat × String) :
    (tally.look [] i count reference).2 = checkReference i count before reference ∧
      Counts count (before ++ [reference.1]) (tally.look [] i count reference).1 := by
  obtain ⟨n, written⟩ := reference
  by_cases hrange : n = 0 ∨ count < n
  · simp only [Tally.look, checkReference, if_pos hrange]
    exact ⟨rfl, hcounts.outside hrange⟩
  · have hn : 1 ≤ n ∧ n ≤ count := by omega
    have hagain : (1 < before.count n + 1 ∧ n ∉ tally.reported) ↔ before.count n = 1 := by
      rw [hcounts.reported n hn.1 hn.2]
      omega
    simp only [Tally.look, checkReference, if_neg hrange, hcounts.getD hn, hagain]
    by_cases honce : before.count n = 1
    · rw [if_pos honce, if_pos honce]
      refine ⟨rfl, hcounts.modify hn, fun k hpos hle => ?_⟩
      have hk := hcounts.reported k hpos hle
      by_cases hsame : n = k
      · subst hsame
        simp [honce]
      · simp [hk, hsame, Ne.symm hsame]
    · rw [if_neg honce, if_neg honce]
      refine ⟨rfl, hcounts.modify hn, fun k hpos hle => ?_⟩
      have hk := hcounts.reported k hpos hle
      by_cases hsame : n = k
      · subst hsame
        simp only [hk, List.count_append, List.count_singleton_self]
        omega
      · simp [hk, hsame]

/-- A whole run tells what the numbers before each reference decide. -/
theorem Counts.lookAll (hcounts : Counts count before tally) (refs : List (Nat × String)) :
    (tally.lookAll [] i count refs).2 = checkReferences i count before refs ∧
      Counts count (before ++ refs.map Prod.fst) (tally.lookAll [] i count refs).1 := by
  induction refs generalizing before tally with
  | nil => exact ⟨rfl, by simpa [Tally.lookAll] using hcounts⟩
  | cons reference rest ih =>
      obtain ⟨hfound, hnext⟩ := hcounts.look (i := i) reference
      obtain ⟨hlater, hlast⟩ := ih hnext
      simp only [Tally.lookAll, checkReferences, hfound, hlater, true_and]
      simpa using hlast

end

/-- What is said of each entry by its position alone. -/
theorem flatMap_zipIdx_eq {α β : Type} {xs : List α} {f : α × Nat → List β}
    {g : Nat → List β}
    (hentry : ∀ x position, xs[position]? = some x → f (x, position) = g position) :
    xs.zipIdx.flatMap f = (List.range xs.length).flatMap g := by
  calc xs.zipIdx.flatMap f
      = xs.zipIdx.flatMap fun entry => g entry.2 :=
        List.flatMap_congr fun (x, position) hmem =>
          hentry x position (List.mk_mem_zipIdx_iff_getElem?.1 hmem)
    _ = (List.range xs.length).flatMap g := by
        rw [← List.flatMap_map, List.zipIdx_map_snd, List.range_eq_range']

/-- The arguments with a count of zero are those that no number names. -/
theorem Counts.checkNamed {numbers : List Nat} {names : List (Option String)} {tally : Tally}
    (hcounts : Counts names.length numbers tally) (i : Fin slotCount) :
    tally.checkNamed [] i names = names.zipIdx.flatMap fun (name, position) =>
      checkReferenced i numbers position name := by
  let report : Nat → Violations := fun position =>
    checkReferenced i numbers position names[position]?.join
  have hlength : tally.counts.length = names.length := by simp [hcounts.counts]
  have hcounted : tally.checkNamed [] i names = (List.range names.length).flatMap report := by
    rw [Tally.checkNamed, ← hlength]
    refine flatMap_zipIdx_eq fun found position hfound => ?_
    have hnumber : found = numbers.count (position + 1) := by
      rw [hcounts.counts, List.getElem?_map, Option.map_eq_some_iff] at hfound
      obtain ⟨other, hother, rfl⟩ := hfound
      obtain ⟨-, rfl⟩ := List.getElem?_eq_some_iff.1 hother
      rw [List.getElem_range]
    by_cases hnamed : position + 1 ∈ numbers
    · have hpos : ¬found = 0 := by
        rw [hnumber]
        exact Nat.ne_of_gt (List.count_pos_iff.2 hnamed)
      simp [report, checkReferenced, hnamed, hpos]
    · have hzero : found = 0 := hnumber.trans (List.count_eq_zero.2 hnamed)
      simp [report, checkReferenced, hnamed, hzero]
  rw [hcounted]
  refine (flatMap_zipIdx_eq fun name position hname => ?_).symm
  simp only [report, hname, Option.join_some]

end Tally

/-- The running check reports what the numbers before each reference decide, and then
the arguments that no reference names. -/
theorem checkPlaceholders_eq_references (i : Fin slotCount) (tokens : List Token)
    (names : List (Option String)) :
    checkPlaceholders [] i tokens names =
      checkReferences i names.length [] (references tokens) ++
        names.zipIdx.flatMap fun (name, position) =>
          checkReferenced i ((references tokens).map Prod.fst) position name := by
  obtain ⟨hfound, hcounts⟩ :=
    (Tally.counts_start names.length).lookAll (i := i) (references tokens)
  simp only [checkPlaceholders]
  rw [hfound, hcounts.checkNamed i, List.nil_append]

end EditorBlocks.Validation
