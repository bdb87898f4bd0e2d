import EditorBlocks.Command.Run
import EditorBlocks.Proofs.FileRuns

/-!
# The verdict on files

Who validates files looks at the code with which the program ends.  It is zero
when every file can be read and every definition in them is accepted, however far
the program would have gone on behind a bad file.  The other way to end is a log
file that is asked for and cannot be opened: then no file is looked at at all.
-/

namespace EditorBlocks

open Validation

/-! ## What is printed -/

namespace Printer

/-- The violations of a report that are printed. -/
def shown (p : Printer) (r : FileReport) : Violations :=
  if p.isHuman && p.quiet && r.isValid then [] else r.violations

/-- People find each violation on a line of its own below the headline of the file,
and data hold them with the counts. -/
theorem fileReports_eq_shown (p : Printer) (reports : List FileReport) :
    p.fileReports reports =
      if p.isHuman then
        String.join (reports.map fun r =>
          p.headline r ++ String.join ((p.shown r).map fun v => line ("  " ++ v.line)))
      else
        ended (p.format.write
          (.list (reports.map fun r => FileReport.toJson { r with violations := p.shown r }))) := by
  cases hhuman : p.isHuman with
  | true =>
      rw [fileReports, if_pos hhuman, if_pos rfl]
      congr 2
      funext r
      rw [fileReport, shown, hhuman, Bool.true_and]
      cases p.quiet && r.isValid <;> rfl
  | false =>
      have hformat : p.format ≠ .human := by
        simpa [isHuman] using hhuman
      have hall : ∀ r : FileReport, { r with violations := p.shown r } = r := by
        intro r
        rw [shown, hhuman]
        rfl
      rw [fileReports, if_neg (by simp [hhuman]), if_neg Bool.false_ne_true]
      simp only [hall]
      cases hp : p.format with
      | human => contradiction
      | json | yaml | prettyJson => rfl

/-- No error is kept from anybody. -/
theorem exists_shown_error_iff {p : Printer} {r : FileReport}
    (hbad : r.isValid = false ↔ ∃ v ∈ r.violations, v.severity = .error) :
    (∃ v ∈ p.shown r, v.severity = .error) ↔ r.isValid = false := by
  unfold shown
  split
  next hhidden =>
    rw [Bool.and_eq_true] at hhidden
    exact iff_of_false (by simp) (by simp [hhidden.2])
  next => exact hbad.symm

end Printer

/-! ## How validation ends -/

theorem Failure.exitCode_ne_zero (f : Failure) : f.exitCode ≠ 0 := by
  cases f <;> nofun

theorem Ending.code_outcome_eq_zero_iff (e : Ending) :
    e.outcome.code = 0 ↔ e.failure = none := by
  unfold Ending.outcome
  cases e.failure with
  | none => exact iff_of_true rfl rfl
  | some f => exact iff_of_false f.exitCode_ne_zero nofun

/-- What a run says that ends with a verdict on its reports, to an error stream that was
told something before. -/
structure Outcome.Judges (p : Printer) (told : String) (reports : List FileReport)
    (o : Outcome) : Prop where
  code : o.code = 0 ∨ o.code = 2
  failing : o.code = 2 ↔ ∃ r ∈ reports, ∃ v ∈ p.shown r, v.severity = .error
  rejected : o.code = 2 →
    o.printed = p.fileReports reports ∧
      o.complaints = told ++ (Failure.rejected (reports.map FileReport.failed).sum
        (reports.map FileReport.documents).sum).report
  accepted : o.code = 0 →
    o.complaints = told ∧
      o.printed = p.fileReports reports ++
        if 1 < reports.length then
          p.success ("All " ++ toString (reports.map FileReport.documents).sum ++
            " definition(s) in " ++ toString reports.length ++ " file(s) are valid")
        else ""

theorem failure_verdict_eq_none_iff {p : Printer} {w : World} {reports : List FileReport} :
    (verdict p w reports).failure = none ↔ ∀ r ∈ reports, r.isValid = true := by
  unfold verdict
  by_cases hfailed : 0 < total FileReport.failed reports
  · simp only [if_pos hfailed]
    obtain ⟨r, hr, hinvalid⟩ := total_failed_pos_iff.1 hfailed
    exact iff_of_false nofun (FileReport.not_forall_valid hinvalid hr)
  · simp only [if_neg hfailed]
    refine iff_of_true rfl fun r hr => ?_
    by_contra hinvalid
    exact hfailed (total_failed_pos_iff.2 ⟨r, hr, Bool.not_eq_true _ ▸ hinvalid⟩)

theorem judges_verdict {p : Printer} {w : World} {reports : List FileReport}
    (hbad : ∀ r ∈ reports,
      (r.isValid = false ↔ ∃ v ∈ r.violations, v.severity = .error)) :
    (verdict p w reports).outcome.Judges p w.logNext.complaints reports := by
  have hshown : 0 < total FileReport.failed reports ↔
      ∃ r ∈ reports, ∃ v ∈ p.shown r, v.severity = .error := by
    rw [total_failed_pos_iff]
    exact exists_congr fun r => and_congr_right fun hr =>
      (Printer.exists_shown_error_iff (hbad r hr)).symm
  unfold verdict
  by_cases hfailed : 0 < total FileReport.failed reports
  · simp only [if_pos hfailed]
    refine ⟨.inr rfl, iff_of_true rfl (hshown.1 hfailed), fun _ => ⟨rfl, ?_⟩, nofun⟩
    rw [← total_eq_sum, ← total_eq_sum]
    rfl
  · simp only [if_neg hfailed]
    refine ⟨.inl rfl, iff_of_false nofun (mt hshown.2 hfailed), nofun, fun _ => ⟨rfl, ?_⟩⟩
    rw [← total_eq_sum]
    rfl

section Files

variable {w : World} {settings : ValidationSettings} {p : Printer} {paths : List String}
  {mode : Option Mode} {failFast : Bool}

theorem failure_validateFiles_eq_none_iff :
    (validateFiles w settings p paths mode failFast).failure = none ↔
      ∃ documents, w.readDocuments paths = .ok documents ∧
        ∀ document ∈ documents, ∀ definition ∈ Document.split document,
          (validate (settings.toBatch mode).context definition).definition.isSome = true := by
  rw [validateFiles_eq]
  dsimp only
  constructor
  · intro hnone
    cases hreports : (fileReports (settings.toBatch mode).context
        (failFast || settings.failFast) w paths).1 with
    | error f =>
        rw [hreports] at hnone
        contradiction
    | ok reports =>
        rw [hreports] at hnone
        have hvalid := failure_verdict_eq_none_iff.1 hnone
        obtain ⟨documents, hloaded⟩ := exists_readDocuments hreports hvalid
        obtain ⟨others, hothers, hcovers⟩ := exists_fileReports hloaded
        obtain rfl := Except.ok.inj (hreports.symm.trans hothers)
        exact ⟨documents, hloaded,
          (FileReport.forall_valid_ofDocuments_iff (length_of_readDocuments hloaded)).1
            (hcovers.forall_valid_iff.1 hvalid)⟩
  · rintro ⟨documents, hloaded, haccepted⟩
    obtain ⟨reports, hreports, hcovers⟩ := exists_fileReports hloaded
    rw [hreports]
    exact failure_verdict_eq_none_iff.2 (hcovers.forall_valid_iff.2
      ((FileReport.forall_valid_ofDocuments_iff (length_of_readDocuments hloaded)).2 haccepted))

theorem exists_reports_of_readDocuments {documents : List Json}
    (hloaded : w.readDocuments paths = .ok documents) :
    ∃ reports logged,
      FileReport.Covers (failFast || settings.failFast)
        (FileReport.ofDocuments (settings.toBatch mode).context (failFast || settings.failFast)
          paths documents) reports ∧
      (w.sink ≠ .errors → logged = "") ∧
      (validateFiles w settings p paths mode failFast).outcome.Judges p
        (w.complaints ++ logged) reports := by
  let run := fileReports (settings.toBatch mode).context (failFast || settings.failFast) w paths
  -- Until the verdict only the log writes to the error stream.
  have hlogs : World.LogsOn w run.2.logNext := (logsOn_fileReports paths w).trans (.logNext _)
  obtain ⟨reports, hreports, hcovers⟩ := exists_fileReports hloaded
  obtain ⟨logged, hcomplaints, hunlogged⟩ := hlogs.complaints
  refine ⟨reports, logged, hcovers, hunlogged, ?_⟩
  rw [validateFiles_eq, ← hcomplaints]
  simp only [hreports]
  refine judges_verdict fun r hr => ?_
  obtain ⟨name, document, rfl⟩ := FileReport.exists_of_mem_ofDocuments (hcovers.subset hr)
  exact FileReport.isValid_eq_false_iff_exists_error name _ _ document

end Files

/-! ## Runs -/

section Starts

variable {w started broken : World} {words : List String} {i : Invocation} {settings : Settings}

theorem run_of_blocked (hwords : Invocation.read w.environment words = .ok i)
    (hsettings : w.findSettings i.settingsPath = .ok settings)
    (hstart : startLog w settings.logging i = .error broken) :
    run w words = ⟨brokenCode, "", broken.complaints, broken.files⟩ := by
  simp only [run, hwords, runInvocation, hsettings, hstart]

theorem run_of_started (hwords : Invocation.read w.environment words = .ok i)
    (hsettings : w.findSettings i.settingsPath = .ok settings)
    (hstart : startLog w settings.logging i = .ok started) :
    run w words = (runCommand started settings i).outcome := by
  simp only [run, hwords, runInvocation, hsettings, hstart]

end Starts

/-- A run that validates files ends with zero exactly when all of them can be read and
every definition in them is accepted, whether it stops at a bad file or not.  When
all can be read it ends with zero or two, and says what its reports come to, which
are those on all files or those up to the first bad one; a log that goes to the error
stream comes before that.  The files are read as they are when the log has been
started, and unless one of them is the log itself it does not matter that the log
goes on.  But with a log file that cannot be opened no file is looked at. -/
theorem validate_verdict {w : World} {words : List String} {i : Invocation}
    {paths : List String} {mode : Option Mode} {failFast : Bool} {settings : Settings}
    (hwords : Invocation.read w.environment words = .ok i)
    (hcommand : i.command = .validate paths mode failFast)
    (hsettings : w.findSettings i.settingsPath = .ok settings) :
    let known := settings.validation
    let context : Context := ⟨mode.getD known.mode, known.knownExtensions.map .ofList,
      known.knownMutators.map .ofList, []⟩
    let p : Printer := ⟨i.output.getD settings.output.format, i.quiet⟩
    let o := run w words
    (LogBlocked w settings.logging i →
      o.code = brokenCode ∧ o.printed = "" ∧ Files.AddsDirectories w.files o.files) ∧
    (¬LogBlocked w settings.logging i →
      ∃ started, startLog w settings.logging i = .ok started ∧
        started.input = w.input ∧ Files.Keeps started.sink.place? w.files started.files ∧
        (settings.logging.file = none → w.lookUp? fileVariable = none →
          started.files = w.files) ∧
        ((∀ path ∈ paths, ¬started.IsLog path) →
          started.readDocuments paths =
            (World.silent started.files started.input []).readDocuments paths) ∧
        (o.code = 0 ↔
          ∃ documents, started.readDocuments paths = .ok documents ∧
            ∀ document ∈ documents, ∀ definition ∈ Document.split document,
              (validate context definition).definition.isSome = true) ∧
        ∀ documents, started.readDocuments paths = .ok documents →
          ∃ reports logged,
            FileReport.Covers (failFast || known.failFast)
              (FileReport.ofDocuments context (failFast || known.failFast) paths documents)
              reports ∧
            (started.sink ≠ .errors → logged = "") ∧
            o.Judges p (started.complaints ++ logged) reports) := by
  intro known context p o
  constructor
  · intro hblocked
    obtain ⟨broken, hstart⟩ := startLog_eq_error_iff.2 hblocked
    have hrun : o = ⟨brokenCode, "", broken.complaints, broken.files⟩ :=
      run_of_blocked hwords hsettings hstart
    rw [hrun]
    exact ⟨rfl, rfl, addsDirectories_startLog hstart⟩
  · intro hopen
    cases hstart : startLog w settings.logging i with
    | error broken => exact absurd (startLog_eq_error_iff.1 ⟨broken, hstart⟩) hopen
    | ok started =>
        have hends : runCommand started settings i =
            validateFiles started known p paths mode failFast := by
          simp only [runCommand, hcommand, known, p]
        have hrun : o = (validateFiles started known p paths mode failFast).outcome :=
          (run_of_started hwords hsettings hstart).trans (congrArg Ending.outcome hends)
        refine ⟨started, rfl, input_startLog hstart, keeps_startLog hstart, fun hnone hunset => ?_,
          World.readDocuments_silent [] (.refl _), ?_, fun documents hloaded => ?_⟩
        · obtain ⟨other, hother, hfiles, -⟩ := exists_startLog_of_no_file i hnone hunset
          obtain rfl := Except.ok.inj (hstart.symm.trans hother)
          exact hfiles
        · rw [hrun, Ending.code_outcome_eq_zero_iff]
          exact failure_validateFiles_eq_none_iff
        · rw [hrun]
          exact exists_reports_of_readDocuments hloaded

/-- The file that was named behind a bad one is not mentioned, except in the log. -/
theorem validate_verdict_stopped :
    let warning := " WARN Stopping at first failing file file=a.json\n"
    let w : World := { World.silent (.ofEntries [] [("a.json", .file (Text.encode "5")),
      ("b.json", .file (Text.encode "\x7b\"type\": \"b\"\x7d"))]) [] [] with
      logger := ⟨["", "", warning], fun _ _ => ""⟩ }
    let words := ["validate", "--fail-fast", "a.json", "b.json"]
    ∃ first, first.path = "a.json" ∧ first.isValid = false ∧
      (run w words).code = 2 ∧ (run w words).Judges ⟨.human, false⟩ warning [first] := by
  intro warning w words
  let i : Invocation := ⟨.validate ["a.json", "b.json"] none true, 0, false, none, none, false⟩
  have hwords : Invocation.read w.environment words = .ok i := by
    decide +kernel
  have hsettings : w.findSettings i.settingsPath = .ok .standard := by
    decide +kernel
  let started := (w.withLog .errors w.files "").logNext
  have hplan : LogPlan.resolve Settings.standard.logging i.verbosity i.quiet = .ok .standard := by
    decide +kernel
  have hplanned : LogPlan.standard.withEnvironment w = (.standard, "") := by
    decide +kernel
  have hopened : LogPlan.standard.openLog w.files = .ok (.errors, w.files) := by
    decide +kernel
  have hstart : startLog w Settings.standard.logging i = .ok started := by
    simp only [startLog, hplan, hplanned, hopened, started]
  have hopen : ¬LogBlocked w Settings.standard.logging i := by
    rw [← startLog_eq_error_iff]
    rintro ⟨broken, hbroken⟩
    rw [hstart] at hbroken
    contradiction
  have hloaded : started.readDocuments ["a.json", "b.json"] =
      .ok [.number (.int 5), .object [("type", .string "b")]] := by
    decide +kernel
  obtain ⟨other, hother, -, -, -, -, -, hreports⟩ := (validate_verdict hwords rfl hsettings).2 hopen
  obtain rfl := Except.ok.inj (hstart.symm.trans hother)
  obtain ⟨reports, logged, hcovers, -, hjudges⟩ := hreports _ hloaded
  let first := FileReport.ofDocument "a.json" ⟨.strict, none, none, []⟩ true (.number (.int 5))
  have hinvalid : first.isValid = false := by
    decide +kernel
  obtain rfl : reports = [first] := hcovers.eq_of_invalid rfl hinvalid
  have hcode : (run w words).code = 2 := by
    decide +kernel
  have htold : started.complaints ++ logged = warning := by
    have hcomplaints : (run w words).complaints = warning ++ (Failure.rejected 1 1).report := by
      decide +kernel
    have hfailed : ([first].map FileReport.failed).sum = 1 := by
      decide +kernel
    have hdocuments : ([first].map FileReport.documents).sum = 1 := by
      decide +kernel
    have hrejected := (hjudges.rejected hcode).2
    rw [hfailed, hdocuments, hcomplaints] at hrejected
    exact ((String.append_left_inj _).1 hrejected).symm
  exact ⟨first, rfl, hinvalid, hcode, htold ▸ hjudges⟩

/-- A log that is to go to a directory, and a file with nothing wrong about it. -/
theorem validate_verdict_blocked :
    let w := World.silent (.ofEntries [] [
      (".blockdef.json",
        .file (Text.encode "\x7b\"logging\": \x7b\"file\": \"logs\"\x7d\x7d")),
      ("a.json", .file (Text.encode "\x7b\"type\": \"a\"\x7d")), ("logs", .directory)]) [] []
    let words := ["validate", "a.json"]
    let i : Invocation := ⟨.validate ["a.json"] none false, 0, false, none, none, false⟩
    let settings : Settings := ⟨.standard, .standard, ⟨"warn", "compact", some "logs"⟩⟩
    Invocation.read w.environment words = .ok i ∧
      w.findSettings i.settingsPath = .ok settings ∧
      (run w words).code = 101 ∧
      ¬((run w words).code = 0 ↔
        ∃ documents, w.readDocuments ["a.json"] = .ok documents ∧
          ∀ document ∈ documents, ∀ definition ∈ Document.split document,
            (validate ⟨.strict, none, none, []⟩ definition).definition.isSome = true) := by
  intro w words i settings
  have hwords : Invocation.read w.environment words = .ok i := by
    decide +kernel
  have hsettings : w.findSettings i.settingsPath = .ok settings := by
    decide +kernel
  have hcode : (run w words).code = 101 := by
    decide +kernel
  have hloaded : w.readDocuments ["a.json"] = .ok [.object [("type", .string "a")]] := by
    decide +kernel
  refine ⟨hwords, hsettings, hcode, fun hverdict => ?_⟩
  rw [hcode] at hverdict
  have hzero : 101 = 0 := hverdict.2 ⟨_, hloaded, by decide +kernel⟩
  contradiction

end EditorBlocks
