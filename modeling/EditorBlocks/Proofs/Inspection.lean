import EditorBlocks.Command.Run
import EditorBlocks.Proofs.FileRuns
import EditorBlocks.Proofs.Independence

/-!
# Inspecting and validating

Inspecting a definition is validating its file and listening to what is said of this
one.  The definition is validated at the place that it has in the file, so the part
of the file report that is about it can be told by its place; and it is the only one
that an index can mean.
-/

namespace EditorBlocks

open Validation Violations

/-! ## One definition of a file -/

theorem lieUnder_validate (c : Context) (document : Json) :
    LieUnder c.path (validate c document).violations := by
  rw [violations_validate, reported]
  split
  next =>
    rw [toErrors_under]
    exact lieUnder_under c.path _
  next => exact lieUnder_under c.path _

namespace FileReport

section Lists

variable (name : String) (context : Context) (items : List Json)

theorem getElem?_outcomes (i : Nat) :
    (outcomes context (.list items))[i]? =
      items[i]?.map fun item => validate (context.entry i) item := by
  simp [outcomes, Function.comp_def]

theorem length_outcomes : (outcomes context (.list items)).length = items.length := by
  simp [outcomes]

theorem documents_ofDocument_list :
    (ofDocument name context false (.list items)).documents = items.length := by
  rw [ofDocument_eq]
  exact length_outcomes context items

/-- A report counts the positions whose definitions are accepted. -/
theorem accepted_ofDocument_list {succeeds : Nat → Bool}
    (hsame : ∀ (i : Nat) (r : Report), (outcomes context (.list items))[i]? = some r →
      succeeds i = r.isValid) :
    (ofDocument name context false (.list items)).accepted =
      (List.range items.length).countP succeeds := by
  have hverdicts : (outcomes context (.list items)).map Report.isValid =
      (List.range items.length).map succeeds := by
    refine List.ext_getElem (by simp [length_outcomes]) fun i hi _ => ?_
    rw [List.length_map] at hi
    rw [List.getElem_map, List.getElem_map, List.getElem_range]
    exact (hsame i _ (List.getElem?_eq_getElem hi)).symm
  have hcount : (ofDocument name context false (.list items)).accepted =
      (outcomes context (.list items)).countP Report.isValid := by
    rw [ofDocument_eq]
    rfl
  rw [hcount, ← Function.id_comp Report.isValid, ← List.countP_map, hverdicts, List.countP_map,
    Function.id_comp]

/-- What a file report says at the place of a definition is what is said of it. -/
theorem within_violations_ofDocument {i : Nat} {item : Json} (hitem : items[i]? = some item) :
    within [context.path ++ [.index i]] (ofDocument name context false (.list items)).violations =
      (validate (context.entry i) item).violations := by
  have hreport : (ofDocument name context false (.list items)).violations =
      items.zipIdx.flatMap fun entry =>
        (validate (context.entry entry.2) entry.1).violations := by
    rw [ofDocument_eq]
    simp only [lookedAt, Bool.false_eq_true, if_false, outcomes, List.flatMap_map]
  rw [hreport, within_flatMap_zipIdx items context.path
    (fun entry => lieUnder_validate (context.entry entry.2) entry.1) i, hitem, Option.elim_some]

end Lists

theorem outcomes_of_single {context : Context} {document : Json}
    (hsingle : ∀ items, document ≠ .list items) :
    outcomes context document = [validate context document] := by
  cases document with
  | list items => exact absurd rfl (hsingle items)
  | null | bool | number | string | object => rfl

end FileReport

/-! ## Inspecting -/

/-- What an inspection comes to, by what is found out about the definition and by the
violations that are printed. -/
structure Ending.Inspects (p : Printer) (path : String) (w : World) (found : Report)
    (told : Violations) (e : Ending) : Prop where
  succeeds : e.failure = none ↔ found.isValid = true
  accepted : ∀ d, found.definition = some d → e = .success (p.summary ⟨d, told⟩) w
  rejected : found.isValid = false →
    e = ⟨p.fileReports [⟨World.displayName path, found.mode, 1, 0, told⟩], w,
      some (.rejected 1 1)⟩

theorem inspects_inspectReport (p : Printer) (path : String) (w : World) (found : Report) :
    (inspectReport p w path found).Inspects p path w found found.violations := by
  unfold inspectReport
  cases hfound : found.definition with
  | none =>
      have hinvalid : found.isValid = false := by
        rw [Report.isValid, hfound]
        rfl
      refine ⟨iff_of_false (Option.some_ne_none _) (by simp [hinvalid]), fun d hd => ?_,
        fun _ => ?_⟩
      · rw [hfound] at hd
        contradiction
      · simp [FileReport.add, FileReport.empty, hinvalid]
  | some definition =>
      have hvalid : found.isValid = true := by
        rw [Report.isValid, hfound]
        rfl
      refine ⟨iff_of_true rfl hvalid, fun d hd => ?_, fun hinvalid => ?_⟩
      · rw [hfound] at hd
        rw [Option.some.inj hd]
      · rw [hvalid] at hinvalid
        contradiction

section Selection

variable {context : Context} {items : List Json} {document : Json} {index : Option Nat}

theorem selectDefinition_of_getElem? {i : Nat} {item : Json} (hitem : items[i]? = some item)
    (hindex : index = some i ∨ index = none ∧ items.length = 1) :
    selectDefinition context index (.list items) = .ok (item, context.entry i) := by
  rcases hindex with rfl | ⟨rfl, hlength⟩
  · simp only [selectDefinition, hitem]
  · obtain ⟨only, rfl⟩ := List.length_eq_one_iff.1 hlength
    obtain ⟨hi, rfl⟩ := List.getElem?_eq_some_iff.1 hitem
    obtain rfl : i = 0 := by simpa using hi
    rfl

theorem selectDefinition_of_length_le {i : Nat} (hlength : items.length ≤ i) :
    selectDefinition context (some i) (.list items) =
      .error (.indexTooLarge i items.length) := by
  simp only [selectDefinition, List.getElem?_eq_none hlength]

theorem selectDefinition_none (hlength : items.length ≠ 1) :
    selectDefinition context none (.list items) = .error (.indexNeeded items.length) := by
  cases items with
  | nil => rfl
  | cons first rest =>
      cases rest with
      | nil => contradiction
      | cons second others => rfl

theorem selectDefinition_single (hsingle : ∀ items, document ≠ .list items)
    (hindex : index = none ∨ index = some 0) :
    selectDefinition context index document = .ok (document, context) := by
  cases document with
  | list items => exact absurd rfl (hsingle items)
  | null | bool | number | string | object => rcases hindex with rfl | rfl <;> rfl

theorem selectDefinition_single_of_ne_zero (hsingle : ∀ items, document ≠ .list items) {i : Nat}
    (hi : i ≠ 0) : selectDefinition context (some i) document = .error (.indexOfSingle i) := by
  obtain ⟨n, rfl⟩ := Nat.exists_eq_succ_of_ne_zero hi
  cases document with
  | list items => exact absurd rfl (hsingle items)
  | null | bool | number | string | object => rfl

end Selection

section Files

variable {w after : World} {settings : ValidationSettings} {p : Printer} {path : String}
  {mode : Option Mode} {document : Json} {index : Option Nat}

theorem inspectFile_of_selected {definition : Json} {place : Context}
    (hloads : w.readDocument path = .ok (document, after))
    (hselected : selectDefinition (settings.toBatch mode).context index document =
      .ok (definition, place)) :
    inspectFile w settings p path index mode =
      inspectReport p after path (validate place definition) := by
  simp only [inspectFile, hloads, hselected]

theorem inspectFile_of_refused {fault : ArgumentsFault}
    (hloads : w.readDocument path = .ok (document, after))
    (hrefused : selectDefinition (settings.toBatch mode).context index document =
      .error fault) :
    inspectFile w settings p path index mode = .failed after (.arguments fault) := by
  simp only [inspectFile, hloads, hrefused]

theorem inspects_inspectFile_list {items : List Json} {position : Nat}
    (hloads : w.readDocument path = .ok (.list items, after))
    (hposition : position < items.length)
    (hindex : index = some position ∨ index = none ∧ items.length = 1) :
    let context := (settings.toBatch mode).context
    let report := FileReport.ofDocument (World.displayName path) context false (.list items)
    ∃ r, (FileReport.outcomes context (.list items))[position]? = some r ∧
      (inspectFile w settings p path index mode).Inspects p path after r
        (within [[.index position]] report.violations) := by
  intro context report
  have hitem : items[position]? = some items[position] := List.getElem?_eq_getElem hposition
  refine ⟨validate (context.entry position) items[position], ?_, ?_⟩
  · rw [FileReport.getElem?_outcomes, hitem, Option.map_some]
  · have htold : within [[.index position]] report.violations =
        (validate (context.entry position) items[position]).violations :=
      FileReport.within_violations_ofDocument (World.displayName path) context items hitem
    rw [htold, inspectFile_of_selected hloads (selectDefinition_of_getElem? hitem hindex)]
    exact inspects_inspectReport p path after _

theorem inspects_inspectFile_single (hloads : w.readDocument path = .ok (document, after))
    (hsingle : ∀ items, document ≠ .list items) (hindex : index = none ∨ index = some 0) :
    let context := (settings.toBatch mode).context
    let report := FileReport.ofDocument (World.displayName path) context false document
    ∃ r, FileReport.outcomes context document = [r] ∧
      (inspectFile w settings p path index mode).Inspects p path after r report.violations := by
  intro context report
  have hfound : FileReport.outcomes context document = [validate context document] :=
    FileReport.outcomes_of_single hsingle
  refine ⟨validate context document, hfound, ?_⟩
  have htold : report.violations = (validate context document).violations := by
    simp only [report, FileReport.ofDocument_eq, hfound]
    exact List.append_nil _
  rw [htold, inspectFile_of_selected hloads (selectDefinition_single hsingle hindex)]
  exact inspects_inspectReport p path after _

end Files

/-- Inspecting a definition succeeds exactly when validation of its file accepts it, and
prints what the report on the file has at its place: as violations if the definition is
bad, and as the warnings of its summary if it is good.  An index that means no
definition is refused.  Nothing else happens but that a log may go on. -/
theorem inspect_agrees_with_validate {w after : World} {path : String} {document : Json}
    (hloads : w.readDocument path = .ok (document, after)) (settings : Settings)
    (i : Invocation) (mode : Option Mode) :
    let p : Printer := ⟨i.output.getD settings.output.format, i.quiet⟩
    let context := (settings.validation.toBatch mode).context
    let found := FileReport.outcomes context document
    let report := FileReport.ofDocument (World.displayName path) context false document
    let inspect := fun index => runCommand w settings { i with command := .inspect path index mode }
    let refused := fun fault => Ending.failed after (.arguments fault)
    World.LogsOn w after ∧
    (settings.validation.failFast = false →
      runCommand w settings { i with command := .validate [path] mode false } =
        verdict p after [report]) ∧
    (∀ items, document = .list items →
      (∀ position index, position < items.length →
        (index = some position ∨ index = none ∧ items.length = 1) →
        ∃ r, found[position]? = some r ∧
          (inspect index).Inspects p path after r
            (within [[.index position]] report.violations)) ∧
      report.documents = items.length ∧
      report.accepted = (List.range items.length).countP
        (fun position => (inspect (some position)).failure.isNone) ∧
      (∀ position, items.length ≤ position →
        inspect (some position) = refused (.indexTooLarge position items.length)) ∧
      (items.length ≠ 1 → inspect none = refused (.indexNeeded items.length))) ∧
    ((∀ items, document ≠ .list items) →
      (∀ index, index = none ∨ index = some 0 →
        ∃ r, found = [r] ∧ (inspect index).Inspects p path after r report.violations) ∧
      ∀ position, position ≠ 0 →
        inspect (some position) = refused (.indexOfSingle position)) := by
  intro p context found report inspect refused
  refine ⟨.readDocument hloads, fun hslow => ?_, ?_,
    fun hsingle => ⟨fun index hindex => ?_, fun position hne => ?_⟩⟩
  · have hreports : fileReports context false w [path] = (.ok [report], after) := by
      rw [fileReports_cons hloads]
      simp only [Bool.and_false, Bool.false_eq_true, if_false]
      rfl
    have hends := validateFiles_eq w settings.validation p [path] mode false
    rw [Bool.false_or, hslow] at hends
    refine hends.trans ?_
    rw [hreports]
  · rintro items rfl
    have hinspects : ∀ position index, position < items.length →
        (index = some position ∨ index = none ∧ items.length = 1) →
        ∃ r, found[position]? = some r ∧
          (inspect index).Inspects p path after r
            (within [[.index position]] report.violations) :=
      fun position index => inspects_inspectFile_list hloads
    have hcount : report.accepted = (List.range items.length).countP
        fun position => (inspect (some position)).failure.isNone := by
      refine FileReport.accepted_ofDocument_list _ context items fun position r hr => ?_
      have hposition : position < items.length := by
        rw [← FileReport.length_outcomes context items]
        exact (List.getElem?_eq_some_iff.1 hr).1
      obtain ⟨other, hother, htold⟩ := hinspects position (some position) hposition (.inl rfl)
      obtain rfl : other = r := Option.some.inj (hother.symm.trans hr)
      rw [Bool.eq_iff_iff, Option.isNone_iff_eq_none]
      exact htold.succeeds
    exact ⟨hinspects, FileReport.documents_ofDocument_list _ context items, hcount,
      fun position hlength => inspectFile_of_refused hloads (selectDefinition_of_length_le hlength),
      fun hlength => inspectFile_of_refused hloads (selectDefinition_none hlength)⟩
  · exact inspects_inspectFile_single hloads hsingle hindex
  · exact inspectFile_of_refused hloads (selectDefinition_single_of_ne_zero hsingle hne)

/-- A good definition and a bad one. -/
theorem inspect_agrees_with_validate_mixed :
    let bytes := Text.encode "[\x7b\"type\": \"a\"\x7d, 5]"
    let w := World.silent (.ofEntries [] [("blocks.json", .file bytes)]) [] []
    let i : Invocation := ⟨.settingsPath, 0, false, none, none, false⟩
    let document := Json.list [.object [("type", .string "a")], .number (.int 5)]
    let inspect := fun index =>
      runCommand w .standard { i with command := .inspect "blocks.json" index none }
    w.readDocument "blocks.json" = .ok (document, w) ∧
      (inspect (some 0)).failure = none ∧
      (inspect (some 1)).failure = some (.rejected 1 1) ∧
      inspect (some 2) = .failed w (.arguments (.indexTooLarge 2 2)) ∧
      inspect none = .failed w (.arguments (.indexNeeded 2)) := by
  intro bytes w i document inspect
  have hhas : w.files.has "blocks.json" = true := by
    decide +kernel
  have hload : Document.load w.files "blocks.json" = .ok document := by
    decide +kernel
  have hloads : w.readDocument "blocks.json" = .ok (document, w) := by
    rw [World.readDocument_file rfl, if_pos hhas, hload]
    rfl
  obtain ⟨-, -, hlist, -⟩ := inspect_agrees_with_validate hloads .standard i none
  obtain ⟨hinspects, -, -, hlarge, hneeded⟩ := hlist _ rfl
  obtain ⟨good, hgood, hfirst⟩ := hinspects 0 (some 0) (by decide) (.inl rfl)
  obtain ⟨bad, hbad, hsecond⟩ := hinspects 1 (some 1) (by decide) (.inl rfl)
  have hvalid : good.isValid = true := by
    obtain rfl := Option.some.inj hgood
    decide +kernel
  have hinvalid : bad.isValid = false := by
    obtain rfl := Option.some.inj hbad
    rfl
  exact ⟨hloads, hfirst.succeeds.2 hvalid, congrArg Ending.failure (hsecond.rejected hinvalid),
    hlarge 2 le_rfl, hneeded (by decide)⟩

end EditorBlocks
