import EditorBlocks.Command.Log
import EditorBlocks.Proofs.WrittenFiles

/-!
# Logs

A log is written beside what a command does.  When it goes on it adds to the error
stream or to its file and changes nothing else, so every path leads where it led, and
every file but the log is read as before.  To start it directories are made, and a file
at most; and only a log file that cannot be opened keeps a command from following.
-/

namespace EditorBlocks

open Files

/-! ## Going on -/

/-- Nothing happened from one moment to another but that the log went on. -/
structure World.LogsOn (before after : World) : Prop where
  sink : after.sink = before.sink
  complaints : ∃ logged, after.complaints = before.complaints ++ logged ∧
    (before.sink ≠ .errors → logged = "")
  files : Grown before.sink.place? before.files after.files

namespace World.LogsOn

variable {before after last : World}

theorem of_same (hsink : after.sink = before.sink)
    (hcomplaints : after.complaints = before.complaints) (hfiles : after.files = before.files) :
    LogsOn before after :=
  ⟨hsink, ⟨"", by rw [hcomplaints, String.append_empty], fun _ => rfl⟩, hfiles ▸ .refl _⟩

theorem refl (w : World) : LogsOn w w := of_same rfl rfl rfl

theorem trans (hfirst : LogsOn before after) (hsecond : LogsOn after last) :
    LogsOn before last := by
  obtain ⟨early, hearly, hunlogged⟩ := hfirst.complaints
  obtain ⟨late, hlate, hunlogged'⟩ := hsecond.complaints
  refine ⟨hsecond.sink.trans hfirst.sink, ⟨early ++ late, ?_, fun hsink => ?_⟩,
    hfirst.files.trans (hfirst.sink ▸ hsecond.files)⟩
  · rw [hlate, hearly, String.append_assoc]
  · rw [hunlogged hsink, hunlogged' (hfirst.sink ▸ hsink)]
    rfl

theorem logNext (w : World) : LogsOn w w.logNext := by
  unfold World.logNext
  cases w.logger.stretches with
  | nil => exact refl w
  | cons text stretches =>
      cases hsink : w.sink with
      | nowhere => exact of_same hsink.symm rfl rfl
      | errors =>
          refine ⟨hsink.symm, ⟨text, rfl, fun hother => absurd hsink hother⟩, ?_⟩
          exact .refl w.files
      | file place =>
          refine ⟨hsink.symm, ⟨"", String.append_empty.symm, fun _ => rfl⟩, ?_⟩
          rw [hsink]
          exact .append w.files place (Text.encode text)

end World.LogsOn

theorem World.files_logNext {w : World} (hnone : w.sink.place? = none) :
    w.logNext.files = w.files := by
  unfold World.logNext
  cases w.logger.stretches with
  | nil => rfl
  | cons text stretches =>
      cases hsink : w.sink with
      | nowhere | errors => rfl
      | file place =>
          rw [hsink] at hnone
          contradiction

/-! ## Opening -/

namespace LogPlan

variable {files after : Files} {plan : LogPlan} {sink : LogSink} {log : Option Place}

/-- How the opening of a log ends, and what was done to the files for it. -/
inductive Opens (files : Files) : Except LogHalt (LogSink × Files) → Prop where
  | unusable {made : Files} (f : Failure) (hmade : AddsDirectories files made) :
      Opens files (.error ⟨.unusable f, made⟩)
  | blocked {made : Files} {path : String} {reason : Fault} (hmade : AddsDirectories files made) :
      Opens files (.error ⟨.blocked path reason, made⟩)
  | toErrors : Opens files (.ok (.errors, files))
  | toFile {made after : Files} {path : String} {place : Place}
      (hmade : AddsDirectories files made) (hopen : made.openEnd path = .ok (after, place)) :
      Opens files (.ok (.file place, after))

theorem opens_openLog (files : Files) (plan : LogPlan) : Opens files (plan.openLog files) := by
  unfold openLog
  cases LogFilter.check plan.level with
  | error fault => exact .unusable _ (.refl files)
  | ok =>
      rw [mapError_ok, ok_bind]
      cases plan.file with
      | none => exact .toErrors
      | some path =>
          simp only
          cases Document.fileName? path with
          | none => exact .unusable _ (.refl files)
          | some name =>
              -- Whether or not the way to the log can be made, what is made of it stays.
              have hmade : AddsDirectories files
                  (left ((parent? path).elim (.ok files) files.createDirectory)) := by
                cases parent? path with
                | none => exact .refl files
                | some directory => exact .createDirectory files directory
              simp only
              cases hdirectory : (parent? path).elim (.ok files) files.createDirectory with
              | error halt =>
                  rw [hdirectory] at hmade
                  exact .unusable _ hmade
              | ok made =>
                  rw [hdirectory] at hmade
                  rw [mapError_ok, ok_bind]
                  split
                  next hopen => exact .toFile hmade hopen
                  next => exact .blocked hmade

theorem keeps_openLog (hopen : plan.openLog files = .ok (sink, after)) : Keeps log files after := by
  have hopens := opens_openLog files plan
  rw [hopen] at hopens
  cases hopens with
  | toErrors => exact .refl files
  | toFile hmade hfile => exact (Keeps.of_addsDirectories hmade).trans (.openEnd hfile)

theorem addsDirectories_openLog {halt : LogHalt} (hopen : plan.openLog files = .error halt) :
    AddsDirectories files halt.files := by
  have hopens := opens_openLog files plan
  rw [hopen] at hopens
  cases hopens with
  | unusable f hmade => exact hmade
  | blocked hmade => exact hmade

/-- A log that goes to no file makes none, and nothing can be in its way. -/
theorem openLog_of_no_file (files : Files) (hnone : plan.file = none) :
    plan.openLog files = .ok (.errors, files) ∨
      ∃ f, plan.openLog files = .error ⟨.unusable f, files⟩ := by
  simp only [openLog, hnone]
  cases LogFilter.check plan.level with
  | ok => exact .inl rfl
  | error fault => exact .inr ⟨_, rfl⟩

theorem file_of_resolve {settings : LoggingSettings} {verbosity : Nat} {quiet : Bool}
    (hresolve : resolve settings verbosity quiet = .ok plan) : plan.file = settings.file := by
  dsimp only [resolve] at hresolve
  split at hresolve
  next =>
    obtain ⟨format, -, hplan⟩ := exists_of_bind_eq_ok hresolve
    exact Except.ok.inj hplan ▸ rfl
  next => exact Except.ok.inj hresolve ▸ rfl

theorem file_withEnvironment (w : World) (plan : LogPlan) :
    (plan.withEnvironment w).1.file = (w.lookUp? fileVariable).or plan.file := by
  unfold withEnvironment
  cases w.lookUp? formatVariable with
  | none => rfl
  | some name =>
      simp only
      cases LogFormat.read name <;> rfl

end LogPlan

/-! ## Starting -/

/-- The log file that a run is to write cannot be opened. -/
def LogBlocked (w : World) (settings : LoggingSettings) (i : Invocation) : Prop :=
  ∃ plan path reason files, LogPlan.resolve settings i.verbosity i.quiet = .ok plan ∧
    (plan.withEnvironment w).1.openLog w.files = .error ⟨.blocked path reason, files⟩

/-- How the start of a log ends, with the plan and what was done about it. -/
inductive LogStart (w : World) (settings : LoggingSettings) (i : Invocation) :
    Except World World → Prop where
  | unresolved {fault : LogFault} (told : String)
      (hplan : LogPlan.resolve settings i.verbosity i.quiet = .error fault) :
      LogStart w settings i (.ok (w.withLog .nowhere w.files told))
  | opened {plan : LogPlan} {sink : LogSink} {files : Files} (told : String)
      (hplan : LogPlan.resolve settings i.verbosity i.quiet = .ok plan)
      (hopen : (plan.withEnvironment w).1.openLog w.files = .ok (sink, files)) :
      LogStart w settings i (.ok (w.withLog sink files told).logNext)
  | unusable {plan : LogPlan} {f : Failure} {files : Files} (told : String)
      (hplan : LogPlan.resolve settings i.verbosity i.quiet = .ok plan)
      (hopen : (plan.withEnvironment w).1.openLog w.files = .error ⟨.unusable f, files⟩) :
      LogStart w settings i (.ok (w.withLog .nowhere files told))
  | blocked {plan : LogPlan} {path : String} {reason : Fault} {files : Files} (told : String)
      (hplan : LogPlan.resolve settings i.verbosity i.quiet = .ok plan)
      (hopen : (plan.withEnvironment w).1.openLog w.files = .error ⟨.blocked path reason, files⟩) :
      LogStart w settings i (.error (w.withLog .nowhere files told))

section Starting

variable {w started broken : World} {settings : LoggingSettings} {i : Invocation}

theorem logStart_startLog (w : World) (settings : LoggingSettings) (i : Invocation) :
    LogStart w settings i (startLog w settings i) := by
  unfold startLog
  cases hplan : LogPlan.resolve settings i.verbosity i.quiet with
  | error fault => exact .unresolved _ hplan
  | ok plan =>
      simp only
      cases hopen : (plan.withEnvironment w).1.openLog w.files with
      | ok opened => exact .opened _ hplan hopen
      | error halt =>
          obtain ⟨failure, files⟩ := halt
          cases failure with
          | unusable f => exact .unusable _ hplan hopen
          | blocked path reason => exact .blocked _ hplan hopen

theorem startLog_eq_error_iff :
    (∃ broken, startLog w settings i = .error broken) ↔ LogBlocked w settings i := by
  constructor
  · rintro ⟨broken, hstart⟩
    have hends := logStart_startLog w settings i
    rw [hstart] at hends
    cases hends with
    | blocked told hplan hopen => exact ⟨_, _, _, _, hplan, hopen⟩
  · rintro ⟨plan, path, reason, files, hplan, hopen⟩
    simp only [startLog, hplan, hopen]
    exact ⟨_, rfl⟩

theorem input_startLog (hstart : startLog w settings i = .ok started) :
    started.input = w.input := by
  have hends := logStart_startLog w settings i
  rw [hstart] at hends
  cases hends with
  | unresolved | unusable => rfl
  | opened => exact World.input_logNext _

/-- Nothing is lost at the start of a log, which may already have gone on by then. -/
theorem keeps_startLog (hstart : startLog w settings i = .ok started) :
    Keeps started.sink.place? w.files started.files := by
  have hends := logStart_startLog w settings i
  rw [hstart] at hends
  cases hends with
  | unresolved => exact .refl w.files
  | @opened plan sink files told hplan hopen =>
      -- The first stretch of the log is written before any command follows.
      have hlogs := World.LogsOn.logNext (w.withLog sink files told)
      rw [hlogs.sink]
      exact (LogPlan.keeps_openLog hopen).trans (.of_grown hlogs.files)
  | unusable told hplan hopen =>
      exact .of_addsDirectories (LogPlan.addsDirectories_openLog hopen)

/-- A run that cannot go on has made directories at most. -/
theorem addsDirectories_startLog (hstart : startLog w settings i = .error broken) :
    AddsDirectories w.files broken.files := by
  have hends := logStart_startLog w settings i
  rw [hstart] at hends
  cases hends with
  | blocked told hplan hopen => exact LogPlan.addsDirectories_openLog hopen

/-- Where no log file is asked for the files stay as they are. -/
theorem exists_startLog_of_no_file (i : Invocation) (hnone : settings.file = none)
    (hunset : w.lookUp? fileVariable = none) :
    ∃ started, startLog w settings i = .ok started ∧ started.files = w.files ∧
      started.sink.place? = none := by
  have hopens : ∀ plan, LogPlan.resolve settings i.verbosity i.quiet = .ok plan →
      (plan.withEnvironment w).1.openLog w.files = .ok (.errors, w.files) ∨
        ∃ f, (plan.withEnvironment w).1.openLog w.files = .error ⟨.unusable f, w.files⟩ := by
    intro plan hplan
    apply LogPlan.openLog_of_no_file
    rw [LogPlan.file_withEnvironment, hunset, LogPlan.file_of_resolve hplan, hnone]
    rfl
  have hends := logStart_startLog w settings i
  generalize startLog w settings i = ends at hends
  cases hends with
  | unresolved told hplan => exact ⟨_, rfl, rfl, rfl⟩
  | @opened plan sink files told hplan hopen =>
      rcases hopens plan hplan with hthere | ⟨f, hthere⟩
      · obtain ⟨rfl, rfl⟩ := Prod.mk.inj (Except.ok.inj (hopen.symm.trans hthere))
        have hsink := (World.LogsOn.logNext (w.withLog .errors w.files told)).sink
        exact ⟨_, rfl, World.files_logNext rfl, congrArg LogSink.place? hsink⟩
      · exact absurd (hopen.symm.trans hthere) nofun
  | @unusable plan f files told hplan hopen =>
      refine ⟨_, rfl, ?_, rfl⟩
      rcases hopens plan hplan with hthere | ⟨f, hthere⟩
      · exact absurd (hopen.symm.trans hthere) nofun
      · exact congrArg LogHalt.files (Except.error.inj (hopen.symm.trans hthere))
  | @blocked plan path reason files told hplan hopen =>
      rcases hopens plan hplan with hthere | ⟨f, hthere⟩
      · exact absurd (hopen.symm.trans hthere) nofun
      · exact absurd (Except.error.inj (hopen.symm.trans hthere)) nofun

end Starting

end EditorBlocks
