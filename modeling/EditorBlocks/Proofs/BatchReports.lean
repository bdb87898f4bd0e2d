import EditorBlocks.Proofs.Acceptance
import EditorBlocks.Validation.Batch
import Mathlib.Data.List.Flatten
import Mathlib.Data.List.Infix

/-!
# A batch and its documents

A batch looks at its documents one after the other and stops early for two
reasons: it has collected as many violations as it may, or it is to stop at the
first failure.  What it has come to after some documents is what their reports
say, put together; so a batch that goes on is described by the reports it has
seen, and one that ends, by the last report it looked at and the reason.

Everything that is said of the outcome follows from the three ways to end.
-/

namespace EditorBlocks.Validation

namespace Batch

/-- The reports of the documents, each validated alone at its position. -/
def reports (s : BatchSettings) (position : Nat) (documents : List Json) : List Report :=
  (documents.zipIdx position).map fun (document, i) => validate (s.context.entry i) document

theorem reports_cons (s : BatchSettings) (position : Nat) (document : Json)
    (rest : List Json) :
    reports s position (document :: rest) =
      validate (s.context.entry position) document :: reports s (position + 1) rest := by
  rw [reports, List.zipIdx_cons, List.map_cons, reports]

/-- What a batch comes to over some reports, when nothing stops it. -/
def collect (seen : List Report) : Batch :=
  ⟨seen.filterMap Report.definition, seen.flatMap Report.violations,
    seen.any fun r => !r.isValid⟩

theorem collect_append (seen : List Report) (r : Report) :
    collect (seen ++ [r]) = (collect seen).add r := by
  have hdefinition : [r].filterMap Report.definition = r.definition.toList := by
    cases hr : r.definition <;> simp [hr]
  simp only [collect, add, List.filterMap_append, hdefinition, List.flatMap_append,
    List.flatMap_singleton, List.any_append, List.any_cons, List.any_nil, Bool.or_false]

/-- Nothing in these reports stops a batch. -/
structure GoesOn (s : BatchSettings) (seen : List Report) : Prop where
  room : 0 < s.maxErrors → (seen.flatMap Report.violations).length < s.maxErrors
  valid : s.failFast = true → ∀ r ∈ seen, r.isValid = true

theorem goesOn_nil (s : BatchSettings) : GoesOn s [] :=
  ⟨fun hlimit => hlimit, fun _ _ hr => absurd hr List.not_mem_nil⟩

/-- The ways in which a batch ends over the reports of its documents. -/
inductive Ends (s : BatchSettings) : List Report → Batch → Prop where
  | complete {seen : List Report} (hgoes : GoesOn s seen) : Ends s seen (collect seen)
  | limit {before rest : List Report} {last : Report} (hgoes : GoesOn s before)
      (hlimit : 0 < s.maxErrors)
      (hfull : s.maxErrors ≤ (collect (before ++ [last])).violations.length) :
      Ends s (before ++ [last] ++ rest)
        { collect (before ++ [last]) with
          violations := (collect (before ++ [last])).violations.take s.maxErrors
          failed := (collect (before ++ [last])).failed || !rest.isEmpty }
  | failure {before rest : List Report} {last : Report} (hgoes : GoesOn s before)
      (hroom : 0 < s.maxErrors →
        (collect (before ++ [last])).violations.length < s.maxErrors)
      (hfast : s.failFast = true) (hfails : last.isValid = false) :
      Ends s (before ++ [last] ++ rest) (collect (before ++ [last]))

/-- One more report either stops the batch or leaves it going on. -/
theorem GoesOn.append {s : BatchSettings} {seen : List Report} {r : Report}
    (hgoes : GoesOn s seen)
    (hroom : 0 < s.maxErrors → (collect (seen ++ [r])).violations.length < s.maxErrors)
    (hvalid : s.failFast = true → r.isValid = true) : GoesOn s (seen ++ [r]) := by
  refine ⟨hroom, fun hfast other hother => ?_⟩
  rcases List.mem_append.1 hother with hseen | hlast
  · exact hgoes.valid hfast other hseen
  · rw [List.mem_singleton.1 hlast]
    exact hvalid hfast

theorem ends_run {s : BatchSettings} {position : Nat} {seen : List Report}
    {documents : List Json} (hgoes : GoesOn s seen) :
    Ends s (seen ++ reports s position documents)
      (run s position (collect seen) documents) := by
  induction documents generalizing position seen with
  | nil =>
      rw [run, reports, List.zipIdx_nil, List.map_nil, List.append_nil]
      exact .complete hgoes
  | cons document rest ih =>
      rw [reports_cons, List.append_cons]
      simp only [run]
      rw [← collect_append]
      generalize validate (s.context.entry position) document = r
      split
      next hstop =>
        have hrest : (reports s (position + 1) rest).isEmpty = rest.isEmpty := by
          cases rest <;> rfl
        rw [cut, ← hrest]
        exact .limit hgoes hstop.1 hstop.2
      next hopen =>
        have hroom : 0 < s.maxErrors →
            (collect (seen ++ [r])).violations.length < s.maxErrors := by
          intro hlimit
          by_contra hfull
          exact hopen ⟨hlimit, Nat.le_of_not_lt hfull⟩
        split
        next hstop =>
          rw [Bool.and_eq_true, Bool.not_eq_true'] at hstop
          exact .failure hgoes hroom hstop.2 hstop.1
        next hon =>
          have hvalid : s.failFast = true → r.isValid = true := by
            intro hfast
            simpa [hfast] using hon
          exact ih (hgoes.append hroom hvalid)

/-! ## Failure -/

theorem failed_collect_iff (seen : List Report) :
    (collect seen).failed = true ↔ ∃ r ∈ seen, r.isValid = false := by
  simp [collect]

theorem failed_collect_eq_false_iff (seen : List Report) :
    (collect seen).failed = false ↔ ∀ r ∈ seen, r.isValid = true := by
  simp [collect]

/-- The violations of some first reports are the first of all. -/
theorem flatMap_prefix {before after : List Report} :
    before.flatMap Report.violations <+: (before ++ after).flatMap Report.violations := by
  rw [List.flatMap_append]
  exact List.prefix_append _ _

section Ends

variable {s : BatchSettings} {all : List Report} {b : Batch}

/-- A batch fails when a document does, and when it is full before the last one. -/
theorem Ends.failed_iff (hends : Ends s all b) :
    b.failed = true ↔
      (∃ r ∈ all, r.isValid = false) ∨
        (0 < s.maxErrors ∧
          s.maxErrors ≤ (all.dropLast.flatMap Report.violations).length) := by
  cases hends with
  | complete hgoes =>
      rw [failed_collect_iff, or_iff_left]
      rintro ⟨hlimit, hfull⟩
      have hshort : (all.dropLast.flatMap Report.violations).length ≤
          (all.flatMap Report.violations).length :=
        ((List.dropLast_prefix all).sublist.flatMap Report.violations).length_le
      have hroom := hgoes.room hlimit
      omega
  | @limit before rest last hgoes hlimit hfull =>
      rw [Bool.or_eq_true, failed_collect_iff]
      constructor
      · rintro (⟨r, hr, hrejected⟩ | hrest)
        · exact .inl ⟨r, List.mem_append_left rest hr, hrejected⟩
        · have hne : rest ≠ [] := by simpa using hrest
          -- Another document follows, so all that was looked at comes before the last one.
          refine .inr ⟨hlimit, ?_⟩
          rw [List.dropLast_append_of_ne_nil hne]
          exact hfull.trans flatMap_prefix.length_le
      · rintro (⟨r, hr, hrejected⟩ | ⟨-, hearly⟩)
        · rcases List.mem_append.1 hr with hlooked | hrest
          · exact .inl ⟨r, hlooked, hrejected⟩
          · refine .inr ?_
            simpa using List.ne_nil_of_mem hrest
        · refine .inr ?_
          by_contra hnone
          have hempty : rest = [] := by simpa using hnone
          rw [hempty, List.append_nil, List.dropLast_concat] at hearly
          have hroom := hgoes.room hlimit
          omega
  | @failure before rest last hgoes hroom hfast hfails =>
      have hrejected : ∃ r ∈ before ++ [last], r.isValid = false :=
        ⟨last, List.mem_append_right _ (List.mem_singleton.2 rfl), hfails⟩
      obtain ⟨r, hr, hrejects⟩ := hrejected
      exact iff_of_true ((failed_collect_iff _).2 ⟨r, hr, hrejects⟩)
        (.inl ⟨r, List.mem_append_left rest hr, hrejects⟩)

/-- A batch that has not failed has looked at all documents. -/
theorem Ends.definitions_of_not_failed (hends : Ends s all b) (hfailed : b.failed = false) :
    b.definitions = all.filterMap Report.definition := by
  cases hends with
  | complete hgoes => rfl
  | @limit before rest last hgoes hlimit hfull =>
      have hempty : rest = [] := by
        rw [Bool.or_eq_false_iff] at hfailed
        simpa using hfailed.2
      rw [hempty, List.append_nil]
      rfl
  | @failure before rest last hgoes hroom hfast hfails =>
      have hvalid := (failed_collect_eq_false_iff _).1 hfailed last
        (List.mem_append_right _ (List.mem_singleton.2 rfl))
      rw [hfails] at hvalid
      contradiction

/-! ## What is reported -/

theorem Ends.violations_prefix (hends : Ends s all b) :
    b.violations <+: all.flatMap Report.violations := by
  cases hends with
  | complete hgoes => exact List.prefix_rfl
  | @limit before rest last hgoes hlimit hfull =>
      exact (List.take_prefix _ _).trans flatMap_prefix
  | @failure before rest last hgoes hroom hfast hfails =>
      exact flatMap_prefix

theorem Ends.length_violations_le (hends : Ends s all b) (hlimit : 0 < s.maxErrors) :
    b.violations.length ≤ s.maxErrors := by
  cases hends with
  | complete hgoes => exact (hgoes.room hlimit).le
  | limit hgoes _ hfull => exact List.length_take_le _ _
  | failure hgoes hroom hfast hfails => exact (hroom hlimit).le

theorem flatMap_ne_nil_of_mem {seen : List Report} {r : Report} (hr : r ∈ seen)
    (hspeaks : r.violations ≠ []) : seen.flatMap Report.violations ≠ [] := by
  intro hnone
  exact hspeaks (List.flatMap_eq_nil_iff.1 hnone r hr)

/-- A batch that failed says why, when the reports of rejected documents do. -/
theorem Ends.violations_ne_nil (hends : Ends s all b) (hfailed : b.failed = true)
    (hspeaks : ∀ r ∈ all, r.isValid = false → r.violations ≠ []) : b.violations ≠ [] := by
  cases hends with
  | complete hgoes =>
      obtain ⟨r, hr, hrejected⟩ := (failed_collect_iff _).1 hfailed
      exact flatMap_ne_nil_of_mem hr (hspeaks r hr hrejected)
  | @limit before rest last hgoes hlimit hfull =>
      intro hnone
      have hlength := congrArg List.length hnone
      rw [List.length_take, List.length_nil, Nat.min_eq_left hfull] at hlength
      omega
  | @failure before rest last hgoes hroom hfast hfails =>
      have hlast : last ∈ before ++ [last] :=
        List.mem_append_right _ (List.mem_singleton.2 rfl)
      exact flatMap_ne_nil_of_mem hlast
        (hspeaks last (List.mem_append_left rest hlast) hfails)

/-- Without stopping at a failure, the first violations are reported, up to the limit. -/
theorem Ends.violations_of_slow (hends : Ends s all b) (hslow : s.failFast = false) :
    b.violations =
      if s.maxErrors = 0 then all.flatMap Report.violations
      else (all.flatMap Report.violations).take s.maxErrors := by
  cases hends with
  | complete hgoes =>
      split
      next => rfl
      next hlimit =>
        have hroom := hgoes.room (Nat.pos_of_ne_zero hlimit)
        exact (List.take_of_length_le hroom.le).symm
  | @limit before rest last hgoes hlimit hfull =>
      rw [if_neg hlimit.ne', List.flatMap_append]
      exact (List.take_append_of_le_length hfull).symm
  | failure hgoes hroom hfast hfails =>
      rw [hslow] at hfast
      contradiction

/-- Without a limit, a batch that stops at a failure stops at the first one. -/
theorem Ends.violations_of_fast (hends : Ends s all b) (hunlimited : s.maxErrors = 0)
    (hfast : s.failFast = true) (hfailed : b.failed = true) :
    ∃ before first rest, all = before ++ first :: rest ∧
      (∀ r ∈ before, r.isValid = true) ∧ first.isValid = false ∧
      b.violations = (before ++ [first]).flatMap Report.violations := by
  cases hends with
  | complete hgoes =>
      obtain ⟨r, hr, hrejected⟩ := (failed_collect_iff _).1 hfailed
      rw [hgoes.valid hfast r hr] at hrejected
      contradiction
  | limit hgoes hlimit hfull =>
      rw [hunlimited] at hlimit
      contradiction
  | @failure before rest last hgoes hroom _ hfails =>
      exact ⟨before, last, rest, List.append_assoc .., hgoes.valid hfast, hfails, rfl⟩

end Ends

/-! ## Batches of documents -/

/-- A report that withholds its definition says why. -/
theorem violations_ne_nil_of_rejected {s : BatchSettings} {position : Nat}
    {documents : List Json} {r : Report} (hr : r ∈ reports s position documents)
    (hrejected : r.isValid = false) : r.violations ≠ [] := by
  obtain ⟨⟨document, i⟩, -, rfl⟩ := List.mem_map.1 hr
  intro hnone
  have hclean : (validate (s.context.entry i) document).violations.hasErrors = false := by
    rw [hnone]
    rfl
  have haccepted := (isSome_definition_iff _ document).2 hclean
  rw [Report.isValid, haccepted] at hrejected
  contradiction

theorem map_definition_of_valid {seen : List Report}
    (hvalid : ∀ r ∈ seen, r.isValid = true) :
    seen.map Report.definition = (seen.filterMap Report.definition).map some := by
  induction seen with
  | nil => rfl
  | cons r rest ih =>
      obtain ⟨hr, hrest⟩ := List.forall_mem_cons.1 hvalid
      obtain ⟨d, hd⟩ := Option.isSome_iff_exists.1 hr
      rw [List.map_cons, List.filterMap_cons_some hd, List.map_cons, hd, ih hrest]

end Batch

/-- A batch gives the definitions of its documents, or the first of the violations
that are reported for each of them alone.  It fails with any of its documents,
and when it is full before it has come to the last one. -/
theorem validateBatch_agrees_with_validate (s : BatchSettings) (documents : List Json) :
    let reports := Batch.reports s 0 documents
    let all := reports.flatMap Report.violations
    (∀ definitions, validateBatch s documents = .ok definitions →
      reports.map Report.definition = definitions.map some) ∧
    (∀ found, validateBatch s documents = .error found →
      found ≠ [] ∧ found <+: all ∧
      (0 < s.maxErrors → found.length ≤ s.maxErrors) ∧
      (0 < s.maxErrors → s.failFast = false → found = all.take s.maxErrors) ∧
      (s.maxErrors = 0 → s.failFast = false → found = all) ∧
      (s.maxErrors = 0 → s.failFast = true → ∃ before first rest,
        reports = before ++ first :: rest ∧ (∀ r ∈ before, r.isValid = true) ∧
          first.isValid = false ∧
          found = (before ++ [first]).flatMap Report.violations)) ∧
    ((∀ r ∈ reports, r.isValid = true) →
      ((∃ definitions, validateBatch s documents = .ok definitions) ↔
        s.maxErrors = 0 ∨
          (reports.dropLast.flatMap Report.violations).length < s.maxErrors)) ∧
    ((∃ r ∈ reports, r.isValid = false) →
      ∃ found, validateBatch s documents = .error found) := by
  intro reports all
  have hends : Batch.Ends s reports (Batch.run s 0 .empty documents) :=
    Batch.ends_run (Batch.goesOn_nil s)
  have hfailed := hends.failed_iff
  have houtcome : validateBatch s documents =
      if (Batch.run s 0 .empty documents).failed
      then .error (Batch.run s 0 .empty documents).violations
      else .ok (Batch.run s 0 .empty documents).definitions :=
    rfl
  rw [houtcome]
  generalize Batch.run s 0 .empty documents = b at hends hfailed
  cases hb : b.failed with
  | false =>
      rw [hb, eq_false_intro Bool.false_ne_true, false_iff] at hfailed
      have hvalid : ∀ r ∈ reports, r.isValid = true := by
        intro r hr
        by_contra hrejected
        exact hfailed (.inl ⟨r, hr, by simpa using hrejected⟩)
      refine ⟨fun definitions hok => ?_, nofun, fun _ => ?_, fun hrejected => ?_⟩
      · obtain rfl : b.definitions = definitions := by simpa using hok
        rw [hends.definitions_of_not_failed hb]
        exact Batch.map_definition_of_valid hvalid
      · refine iff_of_true ⟨b.definitions, rfl⟩ ?_
        by_contra hfull
        rw [not_or, not_lt] at hfull
        exact hfailed (.inr ⟨Nat.pos_of_ne_zero hfull.1, hfull.2⟩)
      · exact absurd (.inl hrejected) hfailed
  | true =>
      refine ⟨nofun, fun found herror => ?_, fun hvalid => ?_, fun _ => ⟨b.violations, rfl⟩⟩
      · obtain rfl : b.violations = found := by simpa using herror
        refine ⟨?_, hends.violations_prefix, hends.length_violations_le, ?_, ?_, ?_⟩
        · exact hends.violations_ne_nil hb fun r => Batch.violations_ne_nil_of_rejected
        · intro hlimit hslow
          rw [hends.violations_of_slow hslow, if_neg hlimit.ne']
        · intro hunlimited hslow
          rw [hends.violations_of_slow hslow, if_pos hunlimited]
        · exact fun hunlimited hfast => hends.violations_of_fast hunlimited hfast hb
      · refine iff_of_false nofun ?_
        rcases hfailed.1 hb with ⟨r, hr, hrejected⟩ | ⟨hlimit, hfull⟩
        · rw [hvalid r hr] at hrejected
          contradiction
        · omega

/-- Warnings alone fill a batch.  It matters whether they do so before the last
document or at it. -/
theorem validateBatch_agrees_with_validate_noisy :
    let s : BatchSettings := ⟨.tolerant, false, 2, none, none⟩
    let noisy := Json.object [("extra", .null), ("type", .string "noisy")]
    let plain := Json.object [("type", .string "plain")]
    (∀ r ∈ Batch.reports s 0 [noisy, noisy, plain], r.isValid = true) ∧
      (∃ found, validateBatch s [noisy, noisy, plain] = .error found ∧ found.length = 2) ∧
      (∀ r ∈ Batch.reports s 0 [noisy, noisy], r.isValid = true) ∧
      ∃ definitions, validateBatch s [noisy, noisy] = .ok definitions ∧
        definitions.length = 2 := by
  intro s noisy plain
  obtain ⟨-, herror, hlong, -⟩ :=
    validateBatch_agrees_with_validate s [noisy, noisy, plain]
  obtain ⟨hok, -, hshort, -⟩ := validateBatch_agrees_with_validate s [noisy, noisy]
  have hlongValid : ∀ r ∈ Batch.reports s 0 [noisy, noisy, plain], r.isValid = true := by
    decide +kernel
  have hshortValid : ∀ r ∈ Batch.reports s 0 [noisy, noisy], r.isValid = true := by
    decide +kernel
  refine ⟨hlongValid, ?_, hshortValid, ?_⟩
  · have hfull : ¬(s.maxErrors = 0 ∨ ((Batch.reports s 0 [noisy, noisy, plain]).dropLast.flatMap
        Report.violations).length < s.maxErrors) := by
      decide +kernel
    cases hbatch : validateBatch s [noisy, noisy, plain] with
    | ok definitions => exact absurd ((hlong hlongValid).1 ⟨definitions, hbatch⟩) hfull
    | error found =>
        obtain ⟨-, -, -, htake, -⟩ := herror found hbatch
        refine ⟨found, rfl, ?_⟩
        rw [htake (by decide) rfl]
        decide +kernel
  · have hroom : s.maxErrors = 0 ∨ ((Batch.reports s 0 [noisy, noisy]).dropLast.flatMap
        Report.violations).length < s.maxErrors := by
      decide +kernel
    obtain ⟨definitions, hbatch⟩ := (hshort hshortValid).2 hroom
    refine ⟨definitions, hbatch, ?_⟩
    have hlength := congrArg List.length (hok definitions hbatch)
    rw [List.length_map, List.length_map] at hlength
    exact hlength.symm

end EditorBlocks.Validation
