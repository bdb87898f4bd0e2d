import EditorBlocks.Proofs.Acceptance
import EditorBlocks.Proofs.Verdicts

/-!
# What quiet leaves of the reports

Who asks for quiet wants to see failures only.  A rejected file is then reported as
otherwise, and nothing is printed for a file without violations.  In between are
the files that are accepted with warnings: what remains of their report is its
headline.  In strict mode there are no such files.
-/

namespace EditorBlocks

open Validation

/-! ## Texts of which some are left out -/

section Texts

variable {α : Type} {f : α → String} {p : α → Bool}

theorem length_join_filter_le (xs : List α) :
    (String.join ((xs.filter p).map f)).length ≤ (String.join (xs.map f)).length := by
  induction xs with
  | nil => exact Nat.le_refl _
  | cons x rest ih =>
      rw [List.map_cons, String.join_cons, String.length_append]
      by_cases hkept : p x = true
      · rw [List.filter_cons_of_pos hkept, List.map_cons, String.join_cons, String.length_append]
        exact Nat.add_le_add_left ih _
      · rw [List.filter_cons_of_neg hkept]
        exact Nat.le_add_left_of_le ih

/-- Leaving texts out makes no difference exactly when they are empty. -/
theorem join_map_eq_join_filter_iff (xs : List α) :
    String.join (xs.map f) = String.join ((xs.filter p).map f) ↔
      ∀ x ∈ xs, p x = false → f x = "" := by
  induction xs with
  | nil => simp
  | cons x rest ih =>
      rw [List.map_cons, String.join_cons, List.forall_mem_cons]
      by_cases hkept : p x = true
      · rw [List.filter_cons_of_pos hkept, List.map_cons, String.join_cons,
          String.append_right_inj, ih]
        simp [hkept]
      · rw [List.filter_cons_of_neg hkept]
        constructor
        · intro hsame
          have hlengths := congrArg String.length hsame
          have hfewer := length_join_filter_le (f := f) (p := p) rest
          rw [String.length_append] at hlengths
          have hempty : f x = "" := String.length_eq_zero_iff.1 (by omega)
          rw [hempty, String.empty_append] at hsame
          exact ⟨fun _ => hempty, ih.1 hsame⟩
        · rintro ⟨hempty, hrest⟩
          rw [hempty (Bool.not_eq_true _ ▸ hkept), String.empty_append]
          exact ih.2 hrest

end Texts

/-! ## Accepted files in strict mode -/

namespace FileReport

theorem severity_of_strict {name : String} {context : Context} {failFast : Bool} {document : Json}
    (hstrict : context.mode = .strict) :
    ∀ v ∈ (ofDocument name context failFast document).violations, v.severity = .error := by
  intro v hv
  rw [ofDocument_eq] at hv
  obtain ⟨found, hfound, hv⟩ := List.mem_flatMap.1 hv
  obtain ⟨place, entry, hentry, rfl⟩ :=
    exists_validate_of_mem_outcomes context document (mem_of_mem_lookedAt hfound)
  have hmode : place.mode = .strict := by
    cases hentry with
    | whole => exact hstrict
    | item => exact hstrict
  exact Validation.severity_of_strict hmode entry v hv

/-- Where a warning is as bad as an error, an accepted file has neither. -/
theorem violations_eq_nil_of_strict {name : String} {context : Context} {failFast : Bool}
    {document : Json} (hstrict : context.mode = .strict)
    (hvalid : (ofDocument name context failFast document).isValid = true) :
    (ofDocument name context failFast document).violations = [] := by
  rw [isValid_iff_errorCount_eq_zero, errorCount, List.length_eq_zero_iff, Violations.errors,
    List.filter_eq_nil_iff] at hvalid
  rw [List.eq_nil_iff_forall_not_mem]
  intro v hv
  have herror := severity_of_strict hstrict v hv
  exact hvalid v hv (by simp [Violation.isError, herror])

end FileReport

/-! ## The printed text -/

namespace Printer

/-- What is printed of an accepted file in quiet. -/
def remark (r : FileReport) : String :=
  if r.violations = [] then "" else line ("WARNING: " ++ r.headline)

theorem remark_eq_empty_iff {r : FileReport} : remark r = "" ↔ r.violations = [] := by
  unfold remark
  split
  next hnone => exact iff_of_true rfl hnone
  next hsome => exact iff_of_false (by simp [line]) hsome

theorem fileReport_quiet_of_valid {r : FileReport} (hvalid : r.isValid = true) :
    (⟨.human, true⟩ : Printer).fileReport r = remark r := by
  rw [fileReport, headline, hvalid, remark]
  cases r.violations with
  | nil => rfl
  | cons v rest => simp [warning, isHuman]

theorem fileReport_quiet_of_rejected {r : FileReport} (hrejected : r.isValid = false) :
    (⟨.human, true⟩ : Printer).fileReport r = (⟨.human, false⟩ : Printer).fileReport r := by
  rw [fileReport, fileReport, headline, headline, hrejected]
  rfl

/-- In quiet the rejected files are reported as otherwise, and of an accepted one the
headline is left when it has warnings.  So nothing but failures is printed exactly
when no file is accepted with warnings, and always in strict mode. -/
theorem quiet_fileReports (reports : List FileReport) :
    let quiet : Printer := ⟨.human, true⟩
    let loud : Printer := ⟨.human, false⟩
    let failed := reports.filter fun r => !r.isValid
    quiet.fileReports reports =
        String.join (reports.map fun r => if r.isValid then remark r else loud.fileReport r) ∧
      (quiet.fileReports reports = loud.fileReports failed ↔
        ∀ r ∈ reports, r.isValid = true → r.violations = []) ∧
      ((∀ r ∈ reports, ∃ name context failFast document,
          context.mode = .strict ∧ r = FileReport.ofDocument name context failFast document) →
        quiet.fileReports reports = loud.fileReports failed) := by
  intro quiet loud failed
  have hexact : quiet.fileReports reports = loud.fileReports failed ↔
      ∀ r ∈ reports, r.isValid = true → r.violations = [] := by
    have hfailed : loud.fileReports failed = String.join (failed.map quiet.fileReport) := by
      refine congrArg String.join (List.map_congr_left fun r hr => ?_)
      have hrejected : r.isValid = false := by
        simpa using (List.mem_filter.1 hr).2
      exact (fileReport_quiet_of_rejected hrejected).symm
    rw [hfailed]
    refine (join_map_eq_join_filter_iff reports).trans (forall₂_congr fun r _ => ?_)
    rw [Bool.not_eq_false']
    refine forall_congr' fun hvalid => ?_
    rw [fileReport_quiet_of_valid hvalid, remark_eq_empty_iff]
  refine ⟨?_, hexact, fun hstrict => hexact.2 fun r hr hvalid => ?_⟩
  · refine congrArg String.join (List.map_congr_left fun r _ => ?_)
    cases hvalid : r.isValid with
    | true => exact fileReport_quiet_of_valid hvalid
    | false => exact fileReport_quiet_of_rejected hvalid
  · obtain ⟨name, context, failFast, document, hmode, rfl⟩ := hstrict r hr
    exact FileReport.violations_eq_nil_of_strict hmode hvalid

/-- A definition with a key that nobody knows, accepted in the tolerant mode. -/
theorem quiet_fileReports_warned :
    let quiet : Printer := ⟨.human, true⟩
    let loud : Printer := ⟨.human, false⟩
    let warned := FileReport.ofDocument "a.json" ⟨.tolerant, none, none, []⟩ false
      (.object [("type", .string "a"), ("x", .number (.int 1))])
    warned.isValid = true ∧
      loud.fileReports ([warned].filter fun r => !r.isValid) = "" ∧
      quiet.fileReports [warned] =
        "WARNING: a.json: 1/1 definition(s) valid (partial mode), 1 warning(s)\n" := by
  decide +kernel

end Printer

end EditorBlocks
