import EditorBlocks.Output.FileReport
import EditorBlocks.Proofs.BatchReports

/-!
# A file and the batch of its documents

A file report counts what a batch collects.  Both look at the same reports: at
all of them, or at those up to the first rejected one.  A file report is a fold
over these reports, and a batch without a limit comes to what they say put
together; so each of the two can be compared with the reports alone.
-/

namespace EditorBlocks

open Validation

namespace FileReport

/-! ## The reports that are looked at -/

/-- The outcomes that a file report or a batch without a limit takes in. -/
def lookedAt (failFast : Bool) (found : List Report) : List Report :=
  if failFast then untilRejected found else found

theorem untilRejected_of_valid {found : List Report} (hvalid : ∀ r ∈ found, r.isValid = true) :
    untilRejected found = found := by
  induction found with
  | nil => rfl
  | cons r rest ih =>
      rw [untilRejected, if_pos (hvalid r List.mem_cons_self)]
      rw [ih fun other hother => hvalid other (List.mem_cons_of_mem r hother)]

theorem untilRejected_append {before rest : List Report} {first : Report}
    (hvalid : ∀ r ∈ before, r.isValid = true) (hrejected : first.isValid = false) :
    untilRejected (before ++ first :: rest) = before ++ [first] := by
  induction before with
  | nil => simp [untilRejected, hrejected]
  | cons r others ih =>
      rw [List.cons_append, untilRejected, if_pos (hvalid r List.mem_cons_self)]
      rw [ih fun other hother => hvalid other (List.mem_cons_of_mem r hother)]
      rfl

theorem prefix_untilRejected (found : List Report) : untilRejected found <+: found := by
  induction found with
  | nil => exact List.prefix_rfl
  | cons r rest ih =>
      rw [untilRejected]
      by_cases hvalid : r.isValid = true
      · rw [if_pos hvalid]
        exact (List.prefix_cons_inj r).2 ih
      · rw [if_neg hvalid]
        exact List.prefix_append [r] rest

theorem valid_of_untilRejected {found : List Report}
    (hvalid : ∀ r ∈ untilRejected found, r.isValid = true) : ∀ r ∈ found, r.isValid = true := by
  induction found with
  | nil => exact fun r hr => absurd hr List.not_mem_nil
  | cons first rest ih =>
      rw [untilRejected] at hvalid
      by_cases hfirst : first.isValid = true
      · rw [if_pos hfirst] at hvalid
        obtain ⟨-, hrest⟩ := List.forall_mem_cons.1 hvalid
        exact List.forall_mem_cons.2 ⟨hfirst, ih hrest⟩
      · rw [if_neg hfirst] at hvalid
        exact absurd (hvalid first List.mem_cons_self) hfirst

theorem mem_of_mem_lookedAt {failFast : Bool} {found : List Report} {r : Report}
    (hr : r ∈ lookedAt failFast found) : r ∈ found := by
  unfold lookedAt at hr
  by_cases hfast : failFast = true
  · rw [if_pos hfast] at hr
    exact (prefix_untilRejected found).subset hr
  · rw [if_neg hfast] at hr
    exact hr

/-- When nothing that was looked at is rejected, everything was looked at. -/
theorem lookedAt_of_valid {failFast : Bool} {found : List Report}
    (hvalid : ∀ r ∈ lookedAt failFast found, r.isValid = true) :
    lookedAt failFast found = found := by
  unfold lookedAt at hvalid ⊢
  by_cases hfast : failFast = true
  · rw [if_pos hfast] at hvalid ⊢
    exact untilRejected_of_valid (valid_of_untilRejected hvalid)
  · rw [if_neg hfast]

/-! ## What a file report counts -/

theorem foldl_add (r : FileReport) (seen : List Report) :
    seen.foldl add r =
      { r with
        documents := r.documents + seen.length
        accepted := r.accepted + seen.countP Report.isValid
        violations := r.violations ++ seen.flatMap Report.violations } := by
  induction seen generalizing r with
  | nil => simp
  | cons found rest ih =>
      rw [List.foldl_cons, ih]
      by_cases hvalid : found.isValid = true
      · simp [add, hvalid, Nat.add_comm, Nat.add_left_comm]
      · simp [add, hvalid, Nat.add_comm, Nat.add_left_comm]

section Counts

variable (name : String) (context : Context) (failFast : Bool) (document : Json)

theorem ofDocument_eq :
    ofDocument name context failFast document =
      let seen := lookedAt failFast (outcomes context document)
      ⟨name, context.mode, seen.length, seen.countP Report.isValid,
        seen.flatMap Report.violations⟩ := by
  change (lookedAt failFast (outcomes context document)).foldl add (empty name context.mode) = _
  rw [foldl_add]
  simp [empty]

theorem accepted_le_documents :
    (ofDocument name context failFast document).accepted ≤
      (ofDocument name context failFast document).documents := by
  rw [ofDocument_eq]
  exact List.countP_le_length

theorem isValid_ofDocument_iff :
    (ofDocument name context failFast document).isValid = true ↔
      ∀ found ∈ lookedAt failFast (outcomes context document), found.isValid = true := by
  have hcounted := accepted_le_documents name context failFast document
  rw [ofDocument_eq] at hcounted ⊢
  rw [← List.countP_eq_length, isValid, failed, decide_eq_true_iff, Nat.sub_eq_zero_iff_le]
  exact ⟨fun hall => Nat.le_antisymm hcounted hall, fun hall => Nat.le_of_eq hall.symm⟩

/-- A document is looked at as a whole or entry by entry. -/
inductive Entry : Json → Context → Json → Prop where
  | whole (document : Json) : Entry document context document
  | item {items : List Json} {item : Json} {i : Nat} (hitem : items[i]? = some item) :
      Entry (.list items) (context.entry i) item

theorem exists_validate_of_mem_outcomes {found : Report}
    (hfound : found ∈ outcomes context document) :
    ∃ place entry, Entry context document place entry ∧ found = validate place entry := by
  cases document with
  | list items =>
      obtain ⟨⟨item, i⟩, hentry, rfl⟩ := List.mem_map.1 hfound
      exact ⟨context.entry i, item, .item (List.mk_mem_zipIdx_iff_getElem?.1 hentry), rfl⟩
  | null | bool | number | string | object =>
      exact ⟨context, _, .whole _, List.mem_singleton.1 hfound⟩

/-- A count of errors and a count of rejected documents are zero together. -/
theorem isValid_iff_errorCount_eq_zero :
    (ofDocument name context failFast document).isValid = true ↔
      (ofDocument name context failFast document).errorCount = 0 := by
  rw [isValid_ofDocument_iff, ofDocument_eq, errorCount, List.length_eq_zero_iff]
  simp only [Violations.errors, List.filter_eq_nil_iff, List.mem_flatMap]
  have hclean : ∀ found ∈ lookedAt failFast (outcomes context document),
      (found.isValid = true ↔ ∀ v ∈ found.violations, ¬v.isError = true) := by
    intro found hfound
    obtain ⟨place, entry, -, rfl⟩ :=
      exists_validate_of_mem_outcomes context document (mem_of_mem_lookedAt hfound)
    rw [Report.isValid, isSome_definition_iff, Violations.hasErrors, List.any_eq_false]
  constructor
  · rintro hvalid v ⟨found, hfound, hv⟩
    exact (hclean found hfound).1 (hvalid found hfound) v hv
  · intro hnone found hfound
    exact (hclean found hfound).2 fun v hv => hnone v ⟨found, hfound, hv⟩

end Counts

end FileReport

namespace Validation

open FileReport

/-! ## What a batch without a limit comes to -/

theorem Batch.Ends.eq_collect {s : BatchSettings} {all : List Report} {b : Batch}
    (hends : Ends s all b) (hunlimited : s.maxErrors = 0) :
    b = collect (lookedAt s.failFast all) := by
  cases hends with
  | complete hgoes =>
      by_cases hfast : s.failFast = true
      · rw [lookedAt, if_pos hfast, untilRejected_of_valid (hgoes.valid hfast)]
      · rw [lookedAt, if_neg hfast]
  | limit hgoes hlimit hfull =>
      rw [hunlimited] at hlimit
      contradiction
  | @failure before rest last hgoes hroom hfast hfails =>
      rw [lookedAt, if_pos hfast, List.append_assoc, List.singleton_append,
        untilRejected_append (hgoes.valid hfast) hfails]

theorem validateBatch_eq_collect {s : BatchSettings} (hunlimited : s.maxErrors = 0)
    (documents : List Json) :
    validateBatch s documents =
      let b := Batch.collect (lookedAt s.failFast (Batch.reports s 0 documents))
      if b.failed then .error b.violations else .ok b.definitions := by
  have hends : Batch.Ends s (Batch.reports s 0 documents) (Batch.run s 0 .empty documents) :=
    Batch.ends_run (Batch.goesOn_nil s)
  rw [validateBatch, hends.eq_collect hunlimited]

end Validation

namespace FileReport

/-- The report on a file that holds a list is valid exactly when the batch of its
documents succeeds, and has the violations with which the batch fails.  Of every
file no more definitions are accepted than were looked at, and its report is
valid exactly when it counts no error. -/
theorem ofDocument_agrees_with_validateBatch (s : BatchSettings) (failFast : Bool)
    (name : String) :
    (∀ items : List Json,
      let report := ofDocument name s.context failFast (.list items)
      let batch := validateBatch { s with failFast, maxErrors := 0 } items
      (report.isValid = true ↔ ∃ definitions, batch = .ok definitions) ∧
        (∀ definitions, batch = .ok definitions →
          report.documents = items.length ∧ report.accepted = items.length) ∧
        ∀ found, batch = .error found → report.violations = found) ∧
    ∀ (context : Context) (document : Json),
      let report := ofDocument name context failFast document
      report.accepted ≤ report.documents ∧ (report.isValid = true ↔ report.errorCount = 0) := by
  refine ⟨fun items => ?_, fun context document => ?_⟩
  · intro report batch
    -- The batch lies at the root and validates each entry where the file report does.
    let all := outcomes s.context (.list items)
    let seen := lookedAt failFast all
    have hreport : report = ⟨name, s.mode, seen.length, seen.countP Report.isValid,
        seen.flatMap Report.violations⟩ :=
      ofDocument_eq name s.context failFast (.list items)
    have hvalid : report.isValid = true ↔ ∀ found ∈ seen, found.isValid = true :=
      isValid_ofDocument_iff name s.context failFast (.list items)
    have hbatch : batch = if (Batch.collect seen).failed
        then .error (Batch.collect seen).violations else .ok (Batch.collect seen).definitions :=
      validateBatch_eq_collect (s := { s with failFast, maxErrors := 0 }) rfl items
    cases hfailed : (Batch.collect seen).failed with
    | true =>
        have hrejected := (Batch.failed_collect_iff seen).1 hfailed
        rw [hfailed, if_pos rfl] at hbatch
        rw [hvalid, hbatch]
        refine ⟨iff_of_false ?_ nofun, nofun, fun found hfound => ?_⟩
        · intro hall
          obtain ⟨r, hr, hnot⟩ := hrejected
          rw [hall r hr] at hnot
          contradiction
        · rw [hreport]
          exact Except.error.inj hfound
    | false =>
        have haccepted := (Batch.failed_collect_eq_false_iff seen).1 hfailed
        have hall : seen = all := lookedAt_of_valid haccepted
        have hlength : seen.length = items.length := by
          rw [hall]
          simp [all, outcomes]
        rw [hfailed, if_neg Bool.false_ne_true] at hbatch
        rw [hvalid, hbatch]
        refine ⟨iff_of_true haccepted ⟨_, rfl⟩, fun _ _ => ?_, nofun⟩
        rw [hreport]
        exact ⟨hlength, (List.countP_eq_length.2 haccepted).trans hlength⟩
  · exact ⟨accepted_le_documents name context failFast document,
      isValid_iff_errorCount_eq_zero name context failFast document⟩

/-- A list that is given up at its second document, and one that only has a warning. -/
theorem ofDocument_agrees_with_validateBatch_noisy :
    let s : BatchSettings := ⟨.tolerant, true, 0, none, none⟩
    let noisy := Json.object [("extra", .null), ("type", .string "noisy")]
    let plain := Json.object [("type", .string "plain")]
    let stopped := ofDocument "blocks.json" s.context true (.list [noisy, .null, plain])
    let complete := ofDocument "blocks.json" s.context true (.list [noisy, plain])
    (stopped.documents = 2 ∧ stopped.accepted = 1 ∧ stopped.errorCount = 1 ∧
      validateBatch s [noisy, .null, plain] = .error stopped.violations) ∧
    (complete.documents = 2 ∧ complete.accepted = 2 ∧ complete.warningCount = 1 ∧
      ∃ definitions, validateBatch s [noisy, plain] = .ok definitions) := by
  intro s noisy plain stopped complete
  have hagrees := (ofDocument_agrees_with_validateBatch s true "blocks.json").1
  constructor
  · have hverdict : stopped.isValid = true ↔
        ∃ definitions, validateBatch s [noisy, .null, plain] = .ok definitions :=
      (hagrees [noisy, .null, plain]).1
    have hviolations : ∀ found, validateBatch s [noisy, .null, plain] = .error found →
        stopped.violations = found :=
      (hagrees [noisy, .null, plain]).2.2
    have hrejected : stopped.isValid = false := by
      decide +kernel
    refine ⟨by decide +kernel, by decide +kernel, by decide +kernel, ?_⟩
    generalize validateBatch s [noisy, .null, plain] = batch at hverdict hviolations ⊢
    cases batch with
    | ok definitions =>
        rw [hverdict.2 ⟨definitions, rfl⟩] at hrejected
        contradiction
    | error found => rw [← hviolations found rfl]
  · have hverdict : complete.isValid = true ↔
        ∃ definitions, validateBatch s [noisy, plain] = .ok definitions :=
      (hagrees [noisy, plain]).1
    have hcounts : ∀ definitions, validateBatch s [noisy, plain] = .ok definitions →
        complete.documents = 2 ∧ complete.accepted = 2 :=
      (hagrees [noisy, plain]).2.1
    have hvalid : complete.isValid = true := by
      decide +kernel
    obtain ⟨definitions, hbatch⟩ := hverdict.1 hvalid
    obtain ⟨hdocuments, haccepted⟩ := hcounts definitions hbatch
    exact ⟨hdocuments, haccepted, by decide +kernel, definitions, hbatch⟩

end FileReport

end EditorBlocks
