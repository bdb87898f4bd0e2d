import EditorBlocks.Proofs.DocumentTexts
import EditorBlocks.Proofs.FileReports
import EditorBlocks.Text.Split

/-!
# The lines of a file report

People read a file report line by line: a headline, and then each violation.  A text
that a violation quotes is printed as it stands in the document, though, so one with
a line break in it goes on at the next line.  Nothing else breaks a line.
-/

namespace EditorBlocks

open Schema Text Validation

/-! ## What stands on a line -/

namespace Validation

/-- A violation of a document quotes texts of the document, below the place where it
is validated. -/
theorem exists_quoted_of_mem_violations {c : Context} {document : Json} {v : Violation}
    (hv : v ∈ (validate c document).violations) :
    ∃ f : Finding, v.kind = f.kind ∧ v.detail = f.detail ∧
      foreign v.line = (Path.names v.path ++ f.texts).flatMap foreign ∧
      foreign v.line ⊆ (Path.names c.path).flatMap foreign ++ document.foreign := by
  obtain ⟨found, hfound, hpath, hkind, hdetail⟩ := exists_mem_checkDocument hv
  obtain ⟨f, place, rfl, hquoted⟩ := quote_checkDocument c document found hfound
  have hdetail : v.detail = f.detail := hdetail
  have hpath : v.path = c.path ++ place := hpath
  have hline : foreign v.line = (Path.names v.path ++ f.texts).flatMap foreign := by
    rw [foreign_line, hdetail, Finding.foreign_detail, List.flatMap_append]
  refine ⟨f, hkind, hdetail, hline, ?_⟩
  rw [hline, hpath, Path.names_append, List.append_assoc, List.flatMap_append]
  exact List.append_subset.2 ⟨List.subset_append_left _ _,
    List.Subset.trans hquoted (List.subset_append_right _ _)⟩

theorem exists_mem_violations_of_mem_checkDocument {c : Context} {document : Json}
    {found : Violation} (hfound : found ∈ checkDocument c.atRoot document) :
    ∃ v ∈ (validate c document).violations,
      v.path = c.path ++ found.path ∧ v.kind = found.kind ∧ v.detail = found.detail := by
  have hplaced : found.under c.path ∈ (checkDocument c.atRoot document).under c.path :=
    List.mem_map_of_mem hfound
  rw [violations_validate, reported]
  split
  next => exact ⟨_, List.mem_map_of_mem hplaced, rfl, rfl, rfl⟩
  next => exact ⟨_, hplaced, rfl, rfl, rfl⟩

end Validation

namespace FileReport

theorem Entry.names_path {context place : Context} {document entry : Json}
    (hentry : Entry context document place entry) :
    Path.names place.path = Path.names context.path := by
  cases hentry with
  | whole => rfl
  | item => exact (Path.names_append _ _).trans (List.append_nil _)

theorem Entry.foreign_subset {context place : Context} {document entry : Json}
    (hentry : Entry context document place entry) : entry.foreign ⊆ document.foreign := by
  cases hentry with
  | whole => exact List.Subset.refl _
  | item hitem => exact Json.foreign_item (List.mem_of_getElem? hitem)

section Reports

variable {name : String} {context : Context} {failFast : Bool} {document : Json} {v : Violation}

theorem exists_quoted_of_mem_violations
    (hv : v ∈ (ofDocument name context failFast document).violations) :
    ∃ f : Finding, v.kind = f.kind ∧ v.detail = f.detail ∧
      foreign v.line = (Path.names v.path ++ f.texts).flatMap foreign ∧
      foreign v.line ⊆ (Path.names context.path).flatMap foreign ++ document.foreign := by
  rw [ofDocument_eq] at hv
  obtain ⟨found, hfound, hv⟩ := List.mem_flatMap.1 hv
  obtain ⟨place, entry, hentry, rfl⟩ :=
    exists_validate_of_mem_outcomes context document (mem_of_mem_lookedAt hfound)
  obtain ⟨f, hkind, hdetail, hline, hsources⟩ := Validation.exists_quoted_of_mem_violations hv
  rw [hentry.names_path] at hsources
  refine ⟨f, hkind, hdetail, hline, List.Subset.trans hsources ?_⟩
  exact List.append_subset.2 ⟨List.subset_append_left _ _,
    List.Subset.trans hentry.foreign_subset (List.subset_append_right _ _)⟩

theorem foreign_headline (r : FileReport) : foreign r.headline = foreign r.path := by
  have hmode : foreign r.mode.name = [] := by
    cases r.mode <;> rfl
  have htally : ∀ errors warnings, foreign (tally errors warnings) = [] := by
    intro errors warnings
    unfold tally
    split_ifs <;>
      simp (disch := decide +kernel) only [foreign_append, foreign_of_plain, foreign_toString,
        List.append_nil]
  simp (disch := decide +kernel) only [headline, foreign_append, foreign_of_plain, foreign_toString,
    hmode, htally, List.append_nil]

end Reports

/-! ## Lines that break -/

theorem break_mem_foreign_iff {s : String} : '\n' ∈ foreign s ↔ '\n' ∈ s.toList := by
  rw [mem_foreign_iff]
  exact and_iff_left (by decide)

/-- The text of a report is cut into its lines exactly when no violation has a line
break on its line. -/
theorem split_writeAll_iff {r : FileReport} (hpath : '\n' ∉ r.path.toList) :
    Text.split '\n' (writeAll .human [r]) = r.lines ++ [""] ↔
      ∀ v ∈ r.violations, '\n' ∉ v.line.toList := by
  have hheadline : '\n' ∉ r.headline.toList := by
    rw [← break_mem_foreign_iff, foreign_headline, break_mem_foreign_iff]
    exact hpath
  have htext : writeAll .human [r] = String.join (r.lines.map (· ++ "\n")) := by
    rw [writeAll, List.flatMap_singleton]
  rw [htext, split_join_lines_iff, lines, List.forall_mem_cons, List.forall_mem_map]
  rw [and_iff_right hheadline]
  refine forall₂_congr fun v _ => not_congr ?_
  simp

/-- The line of a key that nobody knows breaks where the key does. -/
theorem exists_broken_of_unknown {name : String} {context : Context} {failFast : Bool}
    {o : Object} {key : String} (hkey : key ∈ o.keys) (hunknown : isRootKey key = false)
    (hbreak : '\n' ∈ key.toList) :
    ∃ v ∈ (ofDocument name context failFast (.object o)).violations, '\n' ∈ v.line.toList := by
  have hfound : (Finding.unknownKey key).violation [.key key] ∈
      checkDocument context.atRoot (.object o) := by
    have hlisted : (Finding.unknownKey key).violation [.key key] ∈
        checkUnknownKeys [] isRootKey o :=
      List.mem_map.2 ⟨key, List.mem_filter.2 ⟨hkey, by simp [hunknown]⟩, rfl⟩
    simp only [checkDocument, checkBlock_atRoot, List.mem_append, hlisted, true_or, or_true]
  obtain ⟨v, hv, hpath, -, -⟩ := exists_mem_violations_of_mem_checkDocument hfound
  refine ⟨v, ?_, ?_⟩
  · have hseen : lookedAt failFast (outcomes context (.object o)) =
        [validate context (.object o)] := by
      cases failFast <;> simp [lookedAt, outcomes, untilRejected]
    rw [ofDocument_eq, hseen]
    simpa using hv
  · rw [← break_mem_foreign_iff, foreign_line, hpath, Path.names_append]
    refine List.mem_append_left _ (List.mem_flatMap.2 ⟨key, ?_, break_mem_foreign_iff.2 hbreak⟩)
    exact List.mem_append_right _ List.mem_cons_self

/-- A file report is read back line by line exactly when no violation quotes a line
break.  Whatever is not plain on the line of a violation comes from the keys of its
path and from the texts that its finding quotes, and these from the document and the
path under which it is validated.  So the lines are those of the report when there is
no line break in any of these texts; but every key that nobody knows and that has one
makes further lines. -/
theorem lines_read_back_iff {name : String} (hname : '\n' ∉ name.toList) (context : Context)
    (failFast : Bool) (document : Json) :
    let r := ofDocument name context failFast document
    let readBack := Text.split '\n' (writeAll .human [r]) = r.lines ++ [""]
    (readBack ↔ ∀ v ∈ r.violations, '\n' ∉ v.line.toList) ∧
      (∀ v ∈ r.violations, ∃ f : Finding, v.kind = f.kind ∧ v.detail = f.detail ∧
        foreign v.line = (Path.names v.path ++ f.texts).flatMap foreign ∧
        ∀ c ∈ foreign v.line, ∃ s ∈ Path.names context.path ++ document.texts, c ∈ s.toList) ∧
      ((∀ s ∈ Path.names context.path ++ document.texts, '\n' ∉ s.toList) → readBack) ∧
      ∀ (o : Object) (key : String), document = .object o → key ∈ o.keys →
        isRootKey key = false → '\n' ∈ key.toList → ¬readBack := by
  intro r readBack
  have hpath : r.path = name := congrArg FileReport.path (ofDocument_eq ..)
  have hexact : readBack ↔ ∀ v ∈ r.violations, '\n' ∉ v.line.toList :=
    split_writeAll_iff (hpath.symm ▸ hname)
  have hquoted : ∀ v ∈ r.violations, ∃ f : Finding, v.kind = f.kind ∧ v.detail = f.detail ∧
      foreign v.line = (Path.names v.path ++ f.texts).flatMap foreign ∧
      ∀ c ∈ foreign v.line, ∃ s ∈ Path.names context.path ++ document.texts, c ∈ s.toList := by
    intro v hv
    obtain ⟨f, hkind, hdetail, hline, hsources⟩ := exists_quoted_of_mem_violations hv
    refine ⟨f, hkind, hdetail, hline, fun c hc => ?_⟩
    have hc := hsources hc
    rw [Json.foreign, ← List.flatMap_append] at hc
    obtain ⟨s, hs, hc⟩ := List.mem_flatMap.1 hc
    exact ⟨s, hs, (mem_foreign_iff.1 hc).1⟩
  refine ⟨hexact, hquoted, fun hunbroken => ?_, ?_⟩
  · refine hexact.2 fun v hv hbreak => ?_
    obtain ⟨-, -, -, -, hsources⟩ := hquoted v hv
    obtain ⟨s, hs, hc⟩ := hsources _ (break_mem_foreign_iff.2 hbreak)
    exact hunbroken s hs hc
  · rintro o key rfl hkey hunknown hbreak hread
    obtain ⟨v, hv, hbroken⟩ := exists_broken_of_unknown hkey hunknown hbreak
    exact hexact.1 hread v hv hbroken

/-- An argument that is not referred to, and a key in two lines. -/
theorem lines_read_back_iff_unknown :
    let context : Context := ⟨.strict, none, none, [.index 0]⟩
    let read := fun document : Json =>
      let r := ofDocument "a.json" context false document
      Text.split '\n' (writeAll .human [r]) = r.lines ++ [""]
    let unreferenced := Json.object [
      ("args0", .list [.object [("name", .string "n"), ("type", .string "input_value")]]),
      ("message0", .string ""), ("type", .string "a")]
    let broken := Json.object [("type", .string "a"), ("x\ny", .number (.int 1))]
    ('\n' ∉ "a.json".toList ∧
      (∀ s ∈ Path.names context.path ++ unreferenced.texts, '\n' ∉ s.toList) ∧
      read unreferenced) ∧
    ('\n' ∈ "x\ny".toList ∧ ¬read broken) := by
  intro context read unreferenced broken
  have hname : '\n' ∉ "a.json".toList := by decide +kernel
  have hunbroken : ∀ s ∈ Path.names context.path ++ unreferenced.texts, '\n' ∉ s.toList := by
    decide +kernel
  have hbreak : '\n' ∈ "x\ny".toList := by decide +kernel
  obtain ⟨-, -, hread, -⟩ := lines_read_back_iff hname context false unreferenced
  obtain ⟨-, -, -, hbroken⟩ := lines_read_back_iff hname context false broken
  exact ⟨⟨hname, hunbroken, hread hunbroken⟩, hbreak,
    hbroken _ "x\ny" rfl (by decide) (by decide +kernel) hbreak⟩

/-- The report has one violation, and three lines below its headline. -/
theorem lines_not_read_back :
    let r := ofDocument "a.json" ⟨.strict, none, none, [.index 0]⟩ false
      (.object [("type", .string "a"), ("x\ny", .number (.int 1))])
    r.violations.length = 1 ∧ (∃ v ∈ r.violations, '\n' ∈ v.line.toList) ∧
      Text.split '\n' (writeAll .human [r]) =
        ["a.json: 0/1 definition(s) valid (strict mode), 1 error(s)",
          "  error   $[0].x", "y [unknown_field] 'x", "y' is not a recognised key", ""] := by
  decide +kernel

end FileReport

end EditorBlocks
