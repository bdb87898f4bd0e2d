import EditorBlocks.Proofs.Correspondence
import EditorBlocks.Proofs.ReportOrder

/-!
# What the placeholder check reports

A message and the arguments of its slot correspond when the placeholders are the
numbers of the arguments, in any order.  The check tells of every break of this, at
the token where it occurs: a number without an argument each time, and a repeated
one the second time only.  What no token refers to comes afterwards.
-/

namespace EditorBlocks

open Template Violations

namespace Validation

/-- What a message is told about the token at a position. -/
inductive Misplaced (i : Fin slotCount) (count : Nat) (tokens : List Token) (position : Nat) :
    Finding → Prop where
  | outside {n : Nat} (htoken : tokens[position]? = some (.placeholder n))
      (hrange : n = 0 ∨ count < n) :
      Misplaced i count tokens position
        (.placeholderOutOfRange n (toString n) count (argumentsKey i))
  | oversized {digits : String} (htoken : tokens[position]? = some (.oversized digits)) :
      Misplaced i count tokens position
        (.placeholderOutOfRange oversizedNumber digits count (argumentsKey i))
  | second {n : Nat} (htoken : tokens[position]? = some (.placeholder n))
      (hrange : 1 ≤ n ∧ n ≤ count)
      (honce : (tokens.take position).count (.placeholder n) = 1) :
      Misplaced i count tokens position (.duplicatePlaceholder n)

section Step

variable {i : Fin slotCount} {count : Nat}

/-- What is found at a token, after those that came `before` it. -/
def misplaced? (i : Fin slotCount) (count : Nat) (before : List Token) : Token → Option Finding
  | .placeholder n =>
    if n = 0 ∨ count < n then
      some (.placeholderOutOfRange n (toString n) count (argumentsKey i))
    else if before.count (.placeholder n) = 1 then some (.duplicatePlaceholder n)
    else none
  | .oversized digits =>
    some (.placeholderOutOfRange oversizedNumber digits count (argumentsKey i))
  | _ => none

theorem misplaced?_eq_some_iff {tokens : List Token} {position : Nat} {token : Token}
    (htoken : tokens[position]? = some token) (f : Finding) :
    misplaced? i count (tokens.take position) token = some f ↔
      Misplaced i count tokens position f := by
  constructor
  · intro hfound
    cases token with
    | text literal => contradiction
    | escape => contradiction
    | oversized digits =>
        obtain rfl := Option.some.inj hfound
        exact .oversized htoken
    | placeholder n =>
        simp only [misplaced?] at hfound
        split at hfound
        next hrange =>
          obtain rfl := Option.some.inj hfound
          exact .outside htoken hrange
        next hrange =>
          split at hfound
          next honce =>
            obtain rfl := Option.some.inj hfound
            exact .second htoken (by omega) honce
          next => contradiction
  · intro hmisplaced
    cases hmisplaced with
    | outside hplaceholder hrange =>
        obtain rfl := Option.some.inj (htoken.symm.trans hplaceholder)
        exact if_pos hrange
    | oversized hoversized =>
        obtain rfl := Option.some.inj (htoken.symm.trans hoversized)
        rfl
    | @second n hplaceholder hrange honce =>
        obtain rfl := Option.some.inj (htoken.symm.trans hplaceholder)
        have hwithin : ¬(n = 0 ∨ count < n) := by omega
        simp only [misplaced?, if_neg hwithin, if_pos honce]

/-- A number that fits is counted as often as it is written. -/
theorem count_references {tokens : List Token} {n : Nat} (hn : n ≠ oversizedNumber) :
    ((references tokens).map Prod.fst).count n = tokens.count (.placeholder n) := by
  induction tokens with
  | nil => rfl
  | cons token rest ih =>
      cases token with
      | text literal =>
          have hskip : references (.text literal :: rest) = references rest := rfl
          simpa [hskip] using ih
      | escape =>
          have hskip : references (.escape :: rest) = references rest := rfl
          simpa [hskip] using ih
      | placeholder m =>
          have hstep : references (.placeholder m :: rest) = (m, toString m) :: references rest :=
            rfl
          simp [hstep, List.count_cons, ih]
      | oversized digits =>
          have hstep : references (.oversized digits :: rest) =
              (oversizedNumber, digits) :: references rest := rfl
          simp [hstep, ih, hn.symm]

theorem checkReference_eq (hcount : count < oversizedNumber) {token : Token}
    {reference : Nat × String} (hreference : reference? token = some reference)
    (before : List Token) :
    checkReference i count ((references before).map Prod.fst) reference =
      ((misplaced? i count before token).map fun f =>
        f.violation [.key (messageKey i)]).toList := by
  cases token with
  | text literal => contradiction
  | escape => contradiction
  | placeholder n =>
      obtain rfl := Option.some.inj hreference
      simp only [checkReference, misplaced?]
      by_cases hrange : n = 0 ∨ count < n
      · simp [hrange]
      · have hn : n ≠ oversizedNumber := Nat.ne_of_lt (by omega)
        rw [count_references hn]
        by_cases honce : before.count (.placeholder n) = 1
        · simp [hrange, honce]
        · simp [hrange, honce]
  | oversized digits =>
      obtain rfl := Option.some.inj hreference
      have hrange : oversizedNumber = 0 ∨ count < oversizedNumber := .inr hcount
      simp only [checkReference, if_pos hrange]
      rfl

theorem misplaced?_of_no_reference {token : Token} (hnone : reference? token = none)
    (before : List Token) : misplaced? i count before token = none := by
  cases token with
  | text literal => rfl
  | escape => rfl
  | placeholder n => contradiction
  | oversized digits => contradiction

end Step

section Run

variable {i : Fin slotCount} {count : Nat} {tokens : List Token}

/-- What the tokens are told, in their order. -/
def misplacements (i : Fin slotCount) (count : Nat) (tokens : List Token) :
    List (Nat × Finding) :=
  foundAt Prod.snd (fun entry => misplaced? i count (tokens.take entry.2) entry.1) tokens.zipIdx

theorem mem_misplacements_iff {position : Nat} {f : Finding} :
    (position, f) ∈ misplacements i count tokens ↔ Misplaced i count tokens position f := by
  rw [misplacements, mem_foundAt_iff]
  constructor
  · rintro ⟨⟨token, p⟩, hentry, rfl, hfound⟩
    have htoken := List.mk_mem_zipIdx_iff_getElem?.1 hentry
    exact (misplaced?_eq_some_iff htoken f).1 hfound
  · intro hmisplaced
    have hposition : ∃ token, tokens[position]? = some token := by
      cases hmisplaced with
      | outside htoken => exact ⟨_, htoken⟩
      | oversized htoken => exact ⟨_, htoken⟩
      | second htoken => exact ⟨_, htoken⟩
    obtain ⟨token, htoken⟩ := hposition
    refine ⟨(token, position), List.mk_mem_zipIdx_iff_getElem?.2 htoken, rfl, ?_⟩
    exact (misplaced?_eq_some_iff htoken f).2 hmisplaced

theorem pairwise_misplacements :
    ((misplacements i count tokens).map Prod.fst).Pairwise (· < ·) := by
  apply pairwise_foundAt
  rw [List.zipIdx_map_snd]
  exact List.pairwise_lt_range'

theorem checkReferences_eq_misplacements (hcount : count < oversizedNumber) :
    checkReferences i count [] (references tokens) =
      (misplacements i count tokens).map fun entry =>
        entry.2.violation [.key (messageKey i)] := by
  rw [checkReferences_eq_flatMap, misplacements, foundAt, List.map_filterMap,
    List.filterMap_eq_flatMap_toList]
  apply List.flatMap_congr
  rintro ⟨token, position⟩ -
  cases hreference : reference? token with
  | none => simp [misplaced?_of_no_reference hreference, hreference]
  | some reference =>
      simp only [List.nil_append, hreference, checkReference_eq hcount hreference,
        Option.map_map]
      rfl

/-- The numbers of the arguments that no token refers to. -/
def unreferenced (count : Nat) (tokens : List Token) : List Nat :=
  (List.range' 1 count).filter fun n => .placeholder n ∉ tokens

theorem mem_references_iff {n : Nat} (hn : n ≠ oversizedNumber) :
    n ∈ (references tokens).map Prod.fst ↔ .placeholder n ∈ tokens := by
  rw [← List.count_pos_iff, count_references hn, List.count_pos_iff]

theorem checkReferenced_eq {position : Nat} (hposition : position + 1 < oversizedNumber)
    (name : Option String) :
    checkReferenced i ((references tokens).map Prod.fst) position name =
      if .placeholder (position + 1) ∉ tokens then
        [(Finding.unreferencedArgument (position + 1) name (messageKey i)).violation
          [.key (argumentsKey i), .index position]]
      else [] := by
  have hn := Nat.ne_of_lt hposition
  simp only [checkReferenced, List.contains_iff_mem, mem_references_iff hn, ite_not]

theorem checkReferenced_eq_unreferenced {names : List (Option String)}
    (hcount : names.length < oversizedNumber) :
    (names.zipIdx.flatMap fun (name, position) =>
      checkReferenced i ((references tokens).map Prod.fst) position name) =
      (unreferenced names.length tokens).map fun n =>
        (Finding.unreferencedArgument n names[n - 1]?.join (messageKey i)).violation
          [.key (argumentsKey i), .index (n - 1)] := by
  let report : Nat → Violation := fun n =>
    (Finding.unreferencedArgument n names[n - 1]?.join (messageKey i)).violation
      [.key (argumentsKey i), .index (n - 1)]
  let told : Nat → Violations := fun n => if .placeholder n ∉ tokens then [report n] else []
  have hentry : ∀ name position, names[position]? = some name →
      checkReferenced i ((references tokens).map Prod.fst) position name =
        told (1 + position) := by
    intro name position hname
    have hbound := (List.getElem?_eq_some_iff.1 hname).1
    rw [checkReferenced_eq (by omega)]
    simp [told, report, hname, Nat.add_comm 1]
  calc
    _ = (List.range names.length).flatMap fun position => told (1 + position) :=
      Tally.flatMap_zipIdx_eq hentry
    _ = (List.range' 1 names.length).flatMap told := by
      rw [List.range'_eq_map_range, List.flatMap_map]
    _ = (unreferenced names.length tokens).map report := by
      rw [unreferenced, ← List.filterMap_eq_map (f := report), List.filterMap_filter,
        List.filterMap_eq_flatMap_toList]
      apply List.flatMap_congr
      intro n hn
      by_cases hreferenced : .placeholder n ∈ tokens
      · simp [told, hreferenced]
      · simp [told, hreferenced]

end Run

/-! ## Repeated placeholders -/

section Repeated

variable {i : Fin slotCount} {count n : Nat}

theorem count_kind_checkReference (hn : 1 ≤ n ∧ n ≤ count) (before : List Nat)
    (reference : Nat × String) :
    ((checkReference i count before reference).map Violation.kind).count
        (.duplicatePlaceholder n) =
      if reference.1 = n ∧ before.count n = 1 then 1 else 0 := by
  obtain ⟨m, written⟩ := reference
  simp only [checkReference]
  by_cases hrange : m = 0 ∨ count < m
  · have hne : m ≠ n := by omega
    simp [hrange, hne, Finding.violation, Finding.kind]
  · by_cases honce : before.count m = 1
    · by_cases hsame : m = n
      · subst m
        simp [hrange, honce, Finding.violation, Finding.kind]
      · simp [hrange, honce, hsame, Finding.violation, Finding.kind]
    · by_cases hsame : m = n
      · subst m
        simp [hrange, honce]
      · simp [hrange, honce, hsame]

/-- However often a number was seen already, it is reported once more at most, and
only if it comes to be seen twice from then on. -/
theorem count_kind_checkReferences (hn : 1 ≤ n ∧ n ≤ count) (before : List Nat)
    (refs : List (Nat × String)) :
    ((checkReferences i count before refs).map Violation.kind).count
        (.duplicatePlaceholder n) =
      if before.count n < 2 ∧ 2 ≤ before.count n + (refs.map Prod.fst).count n then 1 else 0 := by
  induction refs generalizing before with
  | nil =>
      have hnever : ¬(before.count n < 2 ∧ 2 ≤ before.count n) := by omega
      exact (if_neg hnever).symm
  | cons reference rest ih =>
      rw [checkReferences, List.map_append, List.count_append, ih,
        count_kind_checkReference hn, List.map_cons, List.count_append]
      by_cases hsame : reference.1 = n
      · simp only [hsame, List.count_cons_self, List.count_nil, true_and]
        split_ifs <;> omega
      · simp [hsame]

theorem count_kind_checkPlaceholders {tokens : List Token} {names : List (Option String)}
    (hcount : names.length < oversizedNumber) (hn : 1 ≤ n ∧ n ≤ names.length) :
    ((checkPlaceholders [] i tokens names).map Violation.kind).count (.duplicatePlaceholder n) =
      if 2 ≤ tokens.count (.placeholder n) then 1 else 0 := by
  have hne : n ≠ oversizedNumber := Nat.ne_of_lt (by omega)
  have hrest : (((unreferenced names.length tokens).map fun n =>
      (Finding.unreferencedArgument n names[n - 1]?.join (messageKey i)).violation
        [.key (argumentsKey i), .index (n - 1)]).map Violation.kind).count
          (.duplicatePlaceholder n) = 0 := by
    rw [List.count_eq_zero, List.map_map, List.mem_map]
    rintro ⟨m, -, hkind⟩
    contradiction
  rw [checkPlaceholders_eq_references]
  rw [checkReferenced_eq_unreferenced hcount, List.map_append, List.count_append, hrest,
    count_kind_checkReferences hn, count_references hne]
  simp

end Repeated

/-! ## Silence -/

theorem count_take_lt {α : Type} [DecidableEq α] {xs : List α} {x : α} {position : Nat}
    (hx : xs[position]? = some x) : (xs.take position).count x < xs.count x := by
  have hnext : xs.take (position + 1) = xs.take position ++ [x] := by
    rw [List.take_add_one, hx]
    rfl
  have hle := (List.take_sublist (position + 1) xs).count_le x
  rw [hnext, List.count_append, List.count_singleton_self] at hle
  omega

theorem count_placeholders {tokens : List Token} (n : Nat) :
    (placeholders tokens).count n = tokens.count (.placeholder n) := by
  induction tokens with
  | nil => rfl
  | cons token rest ih =>
      cases token with
      | text literal => simpa [placeholders] using ih
      | escape => simpa [placeholders] using ih
      | placeholder m => simpa [placeholders, List.count_cons] using ih
      | oversized digits => simpa [placeholders] using ih

theorem not_misplaced_of_perm {i : Fin slotCount} {count : Nat} {tokens : List Token}
    (hsmall : ∀ digits, .oversized digits ∉ tokens)
    (hperm : (placeholders tokens).Perm (List.range' 1 count)) (position : Nat) (f : Finding) :
    ¬Misplaced i count tokens position f := by
  intro hmisplaced
  have honce : ∀ n, tokens.count (.placeholder n) ≤ 1 := by
    intro n
    rw [← count_placeholders, hperm.count_eq]
    exact List.nodup_iff_count_le_one.1 List.nodup_range' n
  cases hmisplaced with
  | @outside n htoken hrange =>
      have hmem : n ∈ placeholders tokens := by
        rw [← List.count_pos_iff, count_placeholders, List.count_pos_iff]
        exact List.mem_of_getElem? htoken
      have hwithin := List.mem_range'_1.1 (hperm.mem_iff.1 hmem)
      omega
  | @oversized digits htoken => exact hsmall digits (List.mem_of_getElem? htoken)
  | @second n htoken hrange hbefore =>
      have hlt := count_take_lt htoken
      have hle := honce n
      omega

theorem unreferenced_eq_nil_of_perm {count : Nat} {tokens : List Token}
    (hperm : (placeholders tokens).Perm (List.range' 1 count)) :
    unreferenced count tokens = [] := by
  rw [unreferenced, List.filter_eq_nil_iff]
  intro n hn
  have hmem : n ∈ placeholders tokens := hperm.mem_iff.2 hn
  rw [← List.count_pos_iff, count_placeholders, List.count_pos_iff] at hmem
  simpa using hmem

theorem checkPlaceholders_eq {i : Fin slotCount} {tokens : List Token}
    {names : List (Option String)} (hcount : names.length < oversizedNumber) :
    checkPlaceholders [] i tokens names =
      ((misplacements i names.length tokens).map fun entry =>
        entry.2.violation [.key (messageKey i)]) ++
      (unreferenced names.length tokens).map fun n =>
        (Finding.unreferencedArgument n names[n - 1]?.join (messageKey i)).violation
          [.key (argumentsKey i), .index (n - 1)] := by
  rw [checkPlaceholders_eq_references]
  rw [checkReferences_eq_misplacements hcount, checkReferenced_eq_unreferenced hcount]

theorem checkPlaceholders_eq_nil_iff {i : Fin slotCount} {tokens : List Token}
    {names : List (Option String)} (hcount : names.length < oversizedNumber) :
    checkPlaceholders [] i tokens names = [] ↔
      (∀ digits, .oversized digits ∉ tokens) ∧
        (placeholders tokens).Perm (List.range' 1 names.length) := by
  constructor
  · intro hnone
    have hsilent : (checkPlaceholders [] i tokens names).hasErrors = false := by
      rw [hnone]
      rfl
    have hperm := perm_of_silent_placeholders hsilent
    have hsmall := not_mem_oversized_of_perm hperm hcount
    exact ⟨hsmall, map_fst_references hsmall ▸ hperm⟩
  · rintro ⟨hsmall, hperm⟩
    have hnothing : misplacements i names.length tokens = [] := by
      rw [List.eq_nil_iff_forall_not_mem]
      rintro ⟨position, f⟩ hmem
      exact not_misplaced_of_perm hsmall hperm position f (mem_misplacements_iff.1 hmem)
    rw [checkPlaceholders_eq hcount, hnothing, unreferenced_eq_nil_of_perm hperm]
    rfl

/-! ## Wherever the slot is -/

section Located

variable (path : Path) {i : Fin slotCount} {tokens : List Token} {names : List (Option String)}

theorem checkPlaceholders_at (hcount : names.length < oversizedNumber) :
    checkPlaceholders path i tokens names =
      ((misplacements i names.length tokens).map fun entry =>
        entry.2.violation (path ++ [.key (messageKey i)])) ++
      (unreferenced names.length tokens).map fun n =>
        (Finding.unreferencedArgument n names[n - 1]?.join (messageKey i)).violation
          (path ++ [.key (argumentsKey i), .index (n - 1)]) := by
  rw [checkPlaceholders_under, checkPlaceholders_eq hcount, under_append]
  simp only [under, List.map_map]
  rfl

/-- Where a block stands changes no kind. -/
theorem map_kind_checkPlaceholders :
    (checkPlaceholders path i tokens names).map Violation.kind =
      (checkPlaceholders [] i tokens names).map Violation.kind := by
  rw [checkPlaceholders_under, under, List.map_map]
  rfl

theorem checkPlaceholders_at_eq_nil_iff :
    checkPlaceholders path i tokens names = [] ↔ checkPlaceholders [] i tokens names = [] := by
  rw [checkPlaceholders_under, under, List.map_eq_nil_iff]

end Located

/-- The check tells of the breaks of the correspondence and of nothing else: of each
misplaced token in the order of the message, where a repeated placeholder counts at
its second occurrence, and then of the arguments that no token refers to, in their
order.  It is silent when the placeholders are the numbers of the arguments. -/
theorem checkPlaceholders_exact (path : Path) (i : Fin slotCount) (tokens : List Token)
    {names : List (Option String)} (hcount : names.length < oversizedNumber) :
    (∃ found : List (Nat × Finding),
      (found.map Prod.fst).Pairwise (· < ·) ∧
      (∀ position f, (position, f) ∈ found ↔ Misplaced i names.length tokens position f) ∧
      checkPlaceholders path i tokens names =
        (found.map fun entry => entry.2.violation (path ++ [.key (messageKey i)])) ++
        ((List.range' 1 names.length).filter fun n => .placeholder n ∉ tokens).map fun n =>
          (Finding.unreferencedArgument n names[n - 1]?.join (messageKey i)).violation
            (path ++ [.key (argumentsKey i), .index (n - 1)])) ∧
    (∀ n, 1 ≤ n ∧ n ≤ names.length →
      ((checkPlaceholders path i tokens names).map Violation.kind).count
          (.duplicatePlaceholder n) =
        if 2 ≤ tokens.count (.placeholder n) then 1 else 0) ∧
    (checkPlaceholders path i tokens names = [] ↔
      (∀ digits, .oversized digits ∉ tokens) ∧
        (placeholders tokens).Perm (List.range' 1 names.length)) := by
  refine ⟨⟨misplacements i names.length tokens, pairwise_misplacements, ?_, ?_⟩, ?_, ?_⟩
  · intro position f
    exact mem_misplacements_iff
  · exact checkPlaceholders_at path hcount
  · intro n hn
    rw [map_kind_checkPlaceholders]
    exact count_kind_checkPlaceholders hcount hn
  · rw [checkPlaceholders_at_eq_nil_iff]
    exact checkPlaceholders_eq_nil_iff hcount

/-- A message with every kind of break, in a block that stands in a list: two of its
three arguments are missing, and the one that is there stands in it three times. -/
theorem checkPlaceholders_exact_mixed :
    let path : Path := [.index 4]
    let i : Fin slotCount := ⟨0, by decide⟩
    let tokens := tokenize "%2 of %0 and %2, %99999999999999999999 or %2"
    let names := [some "A", some "B", none]
    names.length < oversizedNumber ∧
      (checkPlaceholders path i tokens names).map Violation.kind =
        [.placeholderOutOfRange 0, .duplicatePlaceholder 2,
          .placeholderOutOfRange oversizedNumber, .unreferencedArgument 1,
          .unreferencedArgument 3] ∧
      ((checkPlaceholders path i tokens names).map Violation.kind).count
        (.duplicatePlaceholder 2) = 1 ∧
      ∃ found : List (Nat × Finding),
        (found.map Prod.fst).Pairwise (· < ·) ∧
        (4, .duplicatePlaceholder 2) ∈ found ∧ (8, .duplicatePlaceholder 2) ∉ found := by
  intro path i tokens names
  have hcount : names.length < oversizedNumber := by decide
  have hkinds : (checkPlaceholders path i tokens names).map Violation.kind =
      [.placeholderOutOfRange 0, .duplicatePlaceholder 2, .placeholderOutOfRange oversizedNumber,
        .unreferencedArgument 1, .unreferencedArgument 3] := by
    decide +kernel
  have hfourth : tokens[4]? = some (.placeholder 2) := by decide +kernel
  have hbefore : (tokens.take 4).count (.placeholder 2) = 1 := by decide +kernel
  have hthrice : (tokens.take 8).count (.placeholder 2) = 2 := by decide +kernel
  have hrepeated : 2 ≤ tokens.count (.placeholder 2) := by decide +kernel
  obtain ⟨⟨found, hascending, hfound, -⟩, hcounted, -⟩ :=
    checkPlaceholders_exact path i tokens hcount
  refine ⟨hcount, hkinds, ?_, found, hascending, ?_, ?_⟩
  · rw [hcounted 2 (by decide), if_pos hrepeated]
  · rw [hfound]
    exact .second hfourth (by decide) hbefore
  · rw [hfound]
    intro hthird
    cases hthird with
    | second htoken hrange honce => omega

end Validation

end EditorBlocks
