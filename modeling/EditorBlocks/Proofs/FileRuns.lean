import EditorBlocks.Command.Validate
import EditorBlocks.Proofs.FileReports
import EditorBlocks.Proofs.Logs
import EditorBlocks.Proofs.Relocation
import Mathlib.Algebra.GroupWithZero.Nat

/-!
# Files one after the other

Files are read in turn and each is reported on by itself.  A run that stops at a
bad file has reported on the files up to that one, and has not read the others.
So what the reports say of the files hangs on two things only: how far the run
came, and what a file is told alone.
-/

namespace EditorBlocks

open Validation

/-! ## Reading -/

namespace World

/-- The documents at the paths.  They are read in turn, since nothing is left of
the standard input when it has been read. -/
def readDocuments (w : World) : List String → Except Failure (List Json)
  | [] => .ok []
  | path :: rest => do
    let (document, w) ← w.readDocument path
    return document :: (← readDocuments w rest)

theorem readDocument_input {w : World} {path : String} (hinput : isInput path = true) :
    w.readDocument path =
      match Text.decode w.input with
      | .error _ => .error (.io .notText)
      | .ok text => ((Document.readAny text (displayName path)).mapError Failure.document).map
          fun read => (read.1, { w with input := [] }.logNext) := by
  simp only [readDocument, hinput, if_true]
  cases Text.decode w.input with
  | error fault => rfl
  | ok text => simp only [Except.mapError, Except.map, bind, Except.bind, pure, Except.pure]

theorem readDocument_file {w : World} {path : String} (hfile : isInput path = false) :
    w.readDocument path =
      if w.files.has path then
        ((Document.load w.files path).mapError Failure.document).map fun document =>
          (document, w.logNext)
      else .error (.fileNotFound path) := by
  simp only [readDocument, hfile, Bool.false_eq_true, if_false]
  cases w.files.has path with
  | true => cases Document.load w.files path <;> rfl
  | false => rfl

theorem exists_of_map_eq_ok {ε α β : Type} {f : α → β} {x : Except ε α} {b : β}
    (hmap : x.map f = .ok b) : ∃ a, x = .ok a ∧ f a = b := by
  cases x with
  | error e => contradiction
  | ok a => exact ⟨a, rfl, Except.ok.inj hmap⟩

/-- Where a document is read nothing else happens but that this is logged. -/
theorem LogsOn.readDocument {w after : World} {path : String} {document : Json}
    (hloads : w.readDocument path = .ok (document, after)) : LogsOn w after := by
  cases hinput : isInput path with
  | true =>
      rw [readDocument_input hinput] at hloads
      cases hdecode : Text.decode w.input with
      | error fault =>
          rw [hdecode] at hloads
          contradiction
      | ok text =>
          rw [hdecode] at hloads
          obtain ⟨read, -, heq⟩ := exists_of_map_eq_ok hloads
          rw [← (Prod.mk.inj heq).2]
          exact (of_same rfl rfl rfl : LogsOn w { w with input := [] }).trans (.logNext _)
  | false =>
      rw [readDocument_file hinput] at hloads
      cases hhas : w.files.has path with
      | true =>
          rw [hhas, if_pos rfl] at hloads
          obtain ⟨read, -, heq⟩ := exists_of_map_eq_ok hloads
          rw [← (Prod.mk.inj heq).2]
          exact .logNext w
      | false =>
          rw [hhas, if_neg Bool.false_ne_true] at hloads
          contradiction

theorem readDocuments_cons_eq_ok_iff {w : World} {path : String} {rest : List String}
    {documents : List Json} :
    w.readDocuments (path :: rest) = .ok documents ↔
      ∃ document after others, w.readDocument path = .ok (document, after) ∧
        after.readDocuments rest = .ok others ∧ documents = document :: others := by
  simp only [readDocuments]
  cases w.readDocument path with
  | error f => exact iff_of_false nofun (by simp)
  | ok read =>
      obtain ⟨document, after⟩ := read
      simp only [bind, Except.bind]
      cases hothers : after.readDocuments rest with
      | error f => exact iff_of_false nofun (by simp [hothers])
      | ok others => simp [pure, Except.pure, hothers, eq_comm]

/-! ### Reading beside a log -/

/-- The path, which is not that of the standard input, leads to the log file. -/
def IsLog (w : World) (path : String) : Prop :=
  isInput path = false ∧ ∃ place, w.files.locate path = .ok place ∧ w.sink = .file place

section Silent

variable {w : World} {files : Files} {path : String} {paths : List String}

theorem load_eq_of_grown {log : Option Files.Place} {after : Files}
    (hgrown : Files.Grown log files after)
    (hother : ∀ place, files.locate path = .ok place → log ≠ some place) :
    Document.load after path = Document.load files path := by
  simp only [Document.load, hgrown.read_eq hother]

/-- A document that is not the log is read as if nothing were logged. -/
theorem readDocument_silent (environment : CommandLine.Environment)
    (hgrown : Files.Grown w.sink.place? files w.files) (hother : ¬w.IsLog path) :
    (silent files w.input environment).readDocument path =
      (w.readDocument path).map fun read => (read.1, silent files read.2.input environment) := by
  cases hinput : isInput path with
  | true =>
      rw [readDocument_input hinput, readDocument_input hinput, silent_input]
      cases Text.decode w.input with
      | error fault => rfl
      | ok text =>
          simp only
          cases Document.readAny text (displayName path) with
          | error e => rfl
          | ok read =>
              simp only [Except.mapError, Except.map, input_logNext]
              rfl
  | false =>
      have hplace : ∀ place, files.locate path = .ok place → w.sink.place? ≠ some place := by
        intro place hlocate hsink
        refine hother ⟨hinput, place, (hgrown.locate_eq path).trans hlocate, ?_⟩
        cases hlog : w.sink with
        | nowhere | errors =>
            rw [hlog] at hsink
            contradiction
        | file log =>
            rw [hlog] at hsink
            exact congrArg LogSink.file (Option.some.inj hsink)
      rw [readDocument_file hinput, readDocument_file hinput, hgrown.has_eq,
        load_eq_of_grown hgrown hplace, silent_files]
      cases files.has path with
      | false => rfl
      | true =>
          cases Document.load files path with
          | error e => rfl
          | ok document => simp [Except.mapError, Except.map]

theorem readDocuments_silent (environment : CommandLine.Environment)
    (hgrown : Files.Grown w.sink.place? files w.files) (hothers : ∀ path ∈ paths, ¬w.IsLog path) :
    w.readDocuments paths = (silent files w.input environment).readDocuments paths := by
  induction paths generalizing w with
  | nil => rfl
  | cons path rest ih =>
      have hfirst := readDocument_silent environment hgrown (hothers path List.mem_cons_self)
      simp only [readDocuments, hfirst]
      cases hloads : w.readDocument path with
      | error f => rfl
      | ok read =>
          obtain ⟨document, after⟩ := read
          have hlogs := LogsOn.readDocument hloads
          -- The log may have grown between two documents, but it is still the only difference.
          have hlater : Files.Grown after.sink.place? files after.files :=
            hlogs.sink ▸ hgrown.trans hlogs.files
          have hrest : ∀ path ∈ rest, ¬after.IsLog path := by
            rintro path hmem ⟨hfile, place, hlocate, hsink⟩
            refine hothers path (List.mem_cons_of_mem _ hmem) ⟨hfile, place, ?_, ?_⟩
            · rw [← hlocate, hlogs.files.locate_eq]
            · rw [← hsink, hlogs.sink]
          simp only [Except.map, bind, Except.bind, ih hlater hrest]

end Silent

end World

/-! ## What a file is told -/

namespace FileReport

/-- The report on each of the files. -/
def ofDocuments (context : Context) (failFast : Bool) (paths : List String)
    (documents : List Json) : List FileReport :=
  List.zipWith
    (fun path document => ofDocument (World.displayName path) context failFast document)
    paths documents

/-- Where a definition stands in its file does not matter for whether it is accepted. -/
theorem definition_entry (context : Context) (i : Nat) (item : Json) :
    (validate (context.entry i) item).definition = (validate context item).definition := by
  have hroot : ∀ path, (validate { context with path := path } item).definition =
      (validate { context with path := [] } item).definition := by
    intro path
    have hbelow := definition_below { context with path := [] } path item
    rwa [Context.below, List.append_nil] at hbelow
  exact (hroot _).trans (hroot _).symm

theorem isValid_ofDocument_iff_split (name : String) (context : Context) (failFast : Bool)
    (document : Json) :
    (ofDocument name context failFast document).isValid = true ↔
      ∀ definition ∈ Document.split document,
        (validate context definition).definition.isSome = true := by
  have hall : (∀ found ∈ outcomes context document, found.isValid = true) ↔
      ∀ definition ∈ Document.split document,
        (validate context definition).definition.isSome = true := by
    cases document with
    | list items =>
        have hvalid : ∀ item i, (validate (context.entry i) item).isValid =
            (validate context item).definition.isSome := by
          intro item i
          rw [Report.isValid, definition_entry]
        simp only [outcomes, Document.split, List.forall_mem_map, hvalid]
        rw [← List.forall_mem_map (f := Prod.fst)
          (P := fun item => (validate context item).definition.isSome = true),
          List.zipIdx_map_fst]
    | null | bool | number | string | object => simp [outcomes, Document.split, Report.isValid]
  rw [isValid_ofDocument_iff, ← hall]
  constructor
  · intro hseen
    rwa [lookedAt_of_valid hseen] at hseen
  · exact fun hfound found hmem => hfound found (mem_of_mem_lookedAt hmem)

theorem forall_valid_ofDocuments_iff {context : Context} {failFast : Bool} {paths : List String}
    {documents : List Json} (hlength : paths.length = documents.length) :
    (∀ r ∈ ofDocuments context failFast paths documents, r.isValid = true) ↔
      ∀ document ∈ documents, ∀ definition ∈ Document.split document,
        (validate context definition).definition.isSome = true := by
  induction paths generalizing documents with
  | nil =>
      obtain rfl := List.length_eq_zero_iff.1 hlength.symm
      exact iff_of_true nofun nofun
  | cons path rest ih =>
      cases documents with
      | nil => contradiction
      | cons document others =>
          rw [ofDocuments, List.zipWith_cons_cons, List.forall_mem_cons, List.forall_mem_cons,
            isValid_ofDocument_iff_split]
          exact and_congr_right fun _ => ih (Nat.succ.inj hlength)

theorem exists_of_mem_ofDocuments {context : Context} {failFast : Bool} {paths : List String}
    {documents : List Json} {r : FileReport}
    (hr : r ∈ ofDocuments context failFast paths documents) :
    ∃ name document, r = ofDocument name context failFast document := by
  obtain ⟨i, hi, rfl⟩ := List.getElem_of_mem hr
  exact ⟨_, _, List.getElem_zipWith⟩

/-- Bad reports are those that hold an error. -/
theorem isValid_eq_false_iff_exists_error (name : String) (context : Context) (failFast : Bool)
    (document : Json) :
    (ofDocument name context failFast document).isValid = false ↔
      ∃ v ∈ (ofDocument name context failFast document).violations, v.severity = .error := by
  rw [← Bool.not_eq_true, isValid_iff_errorCount_eq_zero, errorCount, List.length_eq_zero_iff,
    Violations.errors, List.filter_eq_nil_iff]
  simp [Violation.isError]

theorem not_forall_valid {r : FileReport} {reports : List FileReport}
    (hinvalid : r.isValid = false) (hr : r ∈ reports) : ¬∀ r ∈ reports, r.isValid = true := by
  intro hvalid
  rw [hvalid r hr] at hinvalid
  contradiction

/-! ## How far a run comes -/

/-- The reports that a run has made, by the reports on all its files. -/
inductive Covers (failFast : Bool) : List FileReport → List FileReport → Prop where
  | complete {all : List FileReport} (hvalid : failFast = true → ∀ r ∈ all, r.isValid = true) :
      Covers failFast all all
  | stopped (before rest : List FileReport) (first : FileReport) (hfast : failFast = true)
      (hvalid : ∀ r ∈ before, r.isValid = true) (hinvalid : first.isValid = false) :
      Covers failFast (before ++ first :: rest) (before ++ [first])

namespace Covers

variable {failFast : Bool} {all reports : List FileReport}

theorem cons {r : FileReport} (hcovers : Covers failFast all reports)
    (hgoes : failFast = true → r.isValid = true) : Covers failFast (r :: all) (r :: reports) := by
  cases hcovers with
  | complete hvalid =>
      exact .complete fun hfast => List.forall_mem_cons.2 ⟨hgoes hfast, hvalid hfast⟩
  | stopped before rest first hfast hvalid hinvalid =>
      exact .stopped (r :: before) rest first hfast
        (List.forall_mem_cons.2 ⟨hgoes hfast, hvalid⟩) hinvalid

theorem subset (hcovers : Covers failFast all reports) : reports ⊆ all := by
  cases hcovers with
  | complete => exact List.Subset.refl all
  | stopped => simp

theorem forall_valid_iff (hcovers : Covers failFast all reports) :
    (∀ r ∈ reports, r.isValid = true) ↔ ∀ r ∈ all, r.isValid = true := by
  cases hcovers with
  | complete => exact Iff.rfl
  -- The bad file at which a run stops is among its own reports.
  | stopped before rest first hfast hvalid hinvalid =>
      exact iff_of_false (not_forall_valid hinvalid (by simp))
        (not_forall_valid hinvalid (by simp))

theorem eq_of_invalid {first : FileReport} {rest : List FileReport}
    (hcovers : Covers failFast (first :: rest) reports) (hfast : failFast = true)
    (hinvalid : first.isValid = false) : reports = [first] := by
  generalize hall : first :: rest = all at hcovers
  cases hcovers with
  | complete hvalid =>
      exact absurd (hvalid hfast) (not_forall_valid hinvalid (hall ▸ List.mem_cons_self))
  | stopped before later stop _ hvalid _ =>
      cases before with
      | nil => rw [(List.cons.inj hall).1, List.nil_append]
      | cons head others =>
          obtain rfl := (List.cons.inj hall).1
          exact absurd hvalid (not_forall_valid hinvalid List.mem_cons_self)

end Covers

end FileReport

section Runs

open FileReport World

variable {context : Context} {failFast : Bool} {w after : World} {path : String}
  {rest paths : List String} {document : Json} {documents : List Json}
  {reports : List FileReport}

theorem fileReports_cons (hloads : w.readDocument path = .ok (document, after)) :
    fileReports context failFast w (path :: rest) =
      let report := ofDocument (displayName path) context failFast document
      let others := fileReports context failFast after rest
      if !report.isValid && failFast then (.ok [report], after)
      else (others.1.map (report :: ·), others.2) := by
  simp only [fileReports, hloads]

theorem fileReports_of_unread {f : Failure} (hfails : w.readDocument path = .error f) :
    fileReports context failFast w (path :: rest) = (.error f, w) := by
  simp only [fileReports, hfails]

theorem exists_readDocument_of_fileReports
    (hreports : (fileReports context failFast w (path :: rest)).1 = .ok reports) :
    ∃ document after, w.readDocument path = .ok (document, after) := by
  cases hloads : w.readDocument path with
  | error f =>
      rw [fileReports_of_unread hloads] at hreports
      contradiction
  | ok read => exact ⟨read.1, read.2, rfl⟩

/-- However a run over files ends, nothing else happened but that it was logged. -/
theorem logsOn_fileReports (paths : List String) (w : World) :
    LogsOn w (fileReports context failFast w paths).2 := by
  induction paths generalizing w with
  | nil => exact .refl w
  | cons path rest ih =>
      cases hloads : w.readDocument path with
      | error f =>
          rw [fileReports_of_unread hloads]
          exact .refl w
      | ok read =>
          obtain ⟨document, after⟩ := read
          rw [fileReports_cons hloads]
          dsimp only
          split
          next => exact .readDocument hloads
          next => exact (LogsOn.readDocument hloads).trans (ih after)

theorem length_of_readDocuments (hloaded : w.readDocuments paths = .ok documents) :
    paths.length = documents.length := by
  induction paths generalizing w documents with
  | nil =>
      obtain rfl := Except.ok.inj hloaded
      rfl
  | cons path rest ih =>
      obtain ⟨document, after, others, -, hothers, rfl⟩ :=
        readDocuments_cons_eq_ok_iff.1 hloaded
      rw [List.length_cons, List.length_cons, ih hothers]

/-- When every file can be read there are reports, and they come as far as the run. -/
theorem exists_fileReports (hloaded : w.readDocuments paths = .ok documents) :
    ∃ reports, (fileReports context failFast w paths).1 = .ok reports ∧
      Covers failFast (ofDocuments context failFast paths documents) reports := by
  induction paths generalizing w documents with
  | nil =>
      obtain rfl := Except.ok.inj hloaded
      exact ⟨[], rfl, .complete nofun⟩
  | cons path rest ih =>
      obtain ⟨document, after, others, hloads, hothers, rfl⟩ :=
        readDocuments_cons_eq_ok_iff.1 hloaded
      rw [fileReports_cons hloads, ofDocuments, List.zipWith_cons_cons]
      generalize ofDocument (displayName path) context failFast document = report
      by_cases hstop : (!report.isValid && failFast) = true
      · rw [Bool.and_eq_true, Bool.not_eq_true'] at hstop
        refine ⟨[report], ?_, .stopped [] _ report hstop.2 nofun hstop.1⟩
        simp [hstop.1, hstop.2]
      · obtain ⟨reports, hreports, hcovers⟩ := ih hothers
        refine ⟨report :: reports, ?_, hcovers.cons fun hfast => by simpa [hfast] using hstop⟩
        simp only [if_neg hstop, hreports, Except.map]

/-- A run that finds no bad file has read them all. -/
theorem exists_readDocuments
    (hreports : (fileReports context failFast w paths).1 = .ok reports)
    (hvalid : ∀ r ∈ reports, r.isValid = true) :
    ∃ documents, w.readDocuments paths = .ok documents := by
  induction paths generalizing w reports with
  | nil => exact ⟨[], rfl⟩
  | cons path rest ih =>
      obtain ⟨document, after, hloads⟩ := exists_readDocument_of_fileReports hreports
      rw [fileReports_cons hloads] at hreports
      generalize ofDocument (displayName path) context failFast document = report at hreports
      by_cases hstop : (!report.isValid && failFast) = true
      · simp only [if_pos hstop, Except.ok.injEq] at hreports
        subst hreports
        rw [hvalid report List.mem_cons_self] at hstop
        contradiction
      · simp only [if_neg hstop] at hreports
        obtain ⟨others, hothers, rfl⟩ := exists_of_map_eq_ok hreports
        obtain ⟨documents, hloaded⟩ := ih hothers (List.forall_mem_cons.1 hvalid).2
        exact ⟨document :: documents,
          readDocuments_cons_eq_ok_iff.2 ⟨document, after, documents, hloads, hloaded, rfl⟩⟩

theorem validateFiles_eq (w : World) (settings : ValidationSettings) (p : Printer)
    (paths : List String) (mode : Option Mode) (failFast : Bool) :
    validateFiles w settings p paths mode failFast =
      let run := fileReports (settings.toBatch mode).context (failFast || settings.failFast) w paths
      match run.1 with
      | .error f => .failed run.2 f
      | .ok reports => verdict p run.2 reports := by
  have hfast : (settings.toBatch mode).failFast = settings.failFast := rfl
  simp only [validateFiles, hfast]
  generalize fileReports (settings.toBatch mode).context (failFast || settings.failFast) w
    paths = run
  obtain ⟨reports, after⟩ := run
  cases reports <;> rfl

end Runs

/-! ## Counts over reports -/

theorem total_eq_sum (count : FileReport → Nat) (reports : List FileReport) :
    total count reports = (reports.map count).sum := by
  induction reports with
  | nil => rfl
  | cons r rest ih => rw [total, List.map_cons, List.sum_cons, ih]

theorem total_failed_pos_iff {reports : List FileReport} :
    0 < total FileReport.failed reports ↔ ∃ r ∈ reports, r.isValid = false := by
  induction reports with
  | nil => simp [total]
  | cons r rest ih =>
      have hfirst : 0 < r.failed ↔ r.isValid = false := by
        rw [FileReport.isValid, decide_eq_false_iff_not, Nat.pos_iff_ne_zero]
      rw [total, Nat.add_pos_iff_pos_or_pos, ih, hfirst, List.exists_mem_cons_iff]

end EditorBlocks
