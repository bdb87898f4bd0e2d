import EditorBlocks.Proofs.EnvironmentVariables
import EditorBlocks.Proofs.SavedSettings
import EditorBlocks.Proofs.Verdicts

/-!
# Starting over with the standard settings

A settings file is written anew when that is asked for with force, whatever is in it.
But as every command this one starts with the settings in effect and with the log
that they ask for, so it does not get as far as writing when these cannot be had; and
the settings in effect are those of the very file that is to be replaced, if it is
there.
-/

namespace EditorBlocks

open Files

/-! ## The file that is written -/

namespace Settings

/-- The settings file of a project that is written when none is named. -/
def target : String := ".blockdef.toml"

def place (files : Files) : Place := files.workingDirectory ++ [target]

theorem place_ne_root (files : Files) : place files ≠ [] := List.concat_ne_nil _ _

/-- What is written to it. -/
def standardBytes : List UInt8 := Text.encode (Settings.standard.write .toml)

section Target

variable {files : Files}

theorem locate_target (hthere : files.entry? files.workingDirectory = some .directory) :
    files.locate target = .ok (place files) := by
  have hnames : names target = .ok [target] := rfl
  have hstart : files.start target = files.workingDirectory := by
    have hrelative : target.startsWith "/" = false := by decide +kernel
    rw [start, hrelative]
    rfl
  have hstep : files.step files.workingDirectory target = .ok (place files) := by
    have hshort : ¬nameLimit < target.utf8ByteSize := by decide
    simp only [step, hthere]
    rw [if_neg (by decide +kernel), if_neg (by decide +kernel), if_neg hshort]
    rfl
  rw [locate, hnames, hstart]
  change files.step files.workingDirectory target >>= _ = _
  rw [hstep]
  rfl

theorem save_eq_write : save files target .standard =
    (files.write target standardBytes).mapError (⟨·, files⟩) := by
  have hformat : (Format.ofPath? target).getD .toml = .toml := by decide +kernel
  have hparent : parent? target = none := rfl
  rw [save, Files.save, hformat, hparent]
  rfl

theorem save_target (hthere : files.entry? files.workingDirectory = some .directory) :
    save files target .standard =
      if files.entry? (place files) = some .directory then .error ⟨.isADirectory, files⟩
      else .ok (files.put (place files) (.file standardBytes)) := by
  rw [save_eq_write, write_of_locate (by decide +kernel) (locate_target hthere)]
  split <;> rfl

/-- The standard settings are read back from where they were saved. -/
theorem load_of_save {after : Files} (hsave : save files target .standard = .ok after) :
    load after target = .ok .standard := by
  have hformat : Format.ofPath? target = some .toml := by decide +kernel
  rw [load_of_save_supported hformat hsave]
  exact standard_readsBack target

end Target

end Settings

/-! ## Runs -/

/-- What `config init --force` asks for. -/
def Invocation.startOver : Invocation := ⟨.settingsInit false true, 0, false, none, none, false⟩

/-- The place of the file that the log of a run goes to. -/
def Invocation.logPlace? (w : World) (i : Invocation) : Option Place :=
  match w.findSettings i.settingsPath with
  | .error _ => none
  | .ok settings =>
    match startLog w settings.logging i with
    | .error _ => none
    | .ok started => started.sink.place?

section Runs

variable {w started : World} {settings : Settings}

theorem read_startOver (hunnamed : w.lookUp? Invocation.settingsVariable = none) :
    Invocation.read w.environment ["config", "init", "--force"] = .ok .startOver := by
  have hunset : w.environment.lookup Invocation.settingsVariable =
      List.lookup Invocation.settingsVariable [] := hunnamed
  have hline : Invocation.read [] ["config", "init", "--force"] = .ok .startOver := by
    decide +kernel
  exact (Invocation.read_congr hunset _).trans hline

theorem run_of_unfound {words : List String} {i : Invocation} {f : Failure}
    (hwords : Invocation.read w.environment words = .ok i)
    (hsettings : w.findSettings i.settingsPath = .error f) :
    run w words = ⟨f.exitCode, "", w.complaints ++ f.report, w.files⟩ := by
  simp only [run, hwords, runInvocation, hsettings]

theorem logPlace?_of_started (hfind : w.findSettings none = .ok settings)
    (hstart : startLog w settings.logging .startOver = .ok started) :
    Invocation.startOver.logPlace? w = started.sink.place? := by
  have hfound : w.findSettings Invocation.startOver.settingsPath = .ok settings := hfind
  simp only [Invocation.logPlace?, hfound, hstart]

/-- The surroundings when the file has been written. -/
def World.startedOver (w : World) : World :=
  { w with files := w.files.put (Settings.place w.files) (.file Settings.standardBytes) }

/-- How a run ends that is to start over with the standard settings. -/
inductive StartsOver (w : World) : Outcome → Prop where
  | unsettled {f : Failure} (hfind : w.findSettings none = .error f) :
      StartsOver w ⟨f.exitCode, "", w.complaints ++ f.report, w.files⟩
  | blocked {settings : Settings} {broken : World} (hfind : w.findSettings none = .ok settings)
      (hstart : startLog w settings.logging .startOver = .error broken) :
      StartsOver w ⟨brokenCode, "", broken.complaints, broken.files⟩
  | occupied {settings : Settings} {started : World}
      (hfind : w.findSettings none = .ok settings)
      (hstart : startLog w settings.logging .startOver = .ok started)
      (hdirectory : started.files.entry? (Settings.place started.files) = some .directory) :
      StartsOver w ⟨1, "", started.logNext.complaints ++ (Failure.io .isADirectory).report,
        started.logNext.files⟩
  | written {settings : Settings} {started : World} (printed : String)
      (hfind : w.findSettings none = .ok settings)
      (hstart : startLog w settings.logging .startOver = .ok started)
      (hfree : started.files.entry? (Settings.place started.files) ≠ some .directory) :
      StartsOver w ⟨0, printed, started.startedOver.logNext.complaints,
        started.startedOver.logNext.files⟩

theorem startsOver_run (hunnamed : w.lookUp? Invocation.settingsVariable = none)
    (hthere : w.files.entry? w.files.workingDirectory = some .directory) :
    StartsOver w (run w ["config", "init", "--force"]) := by
  have hwords := read_startOver hunnamed
  cases hfind : w.findSettings none with
  | error f =>
      rw [run_of_unfound hwords hfind]
      exact .unsettled hfind
  | ok settings =>
      cases hstart : startLog w settings.logging .startOver with
      | error broken =>
          rw [run_of_blocked hwords hfind hstart]
          exact .blocked hfind hstart
      | ok started =>
          have hstill := (keeps_startLog hstart).start_directory hthere
          have hcommand : runCommand started settings .startOver =
              Command.initAt started ⟨settings.output.format, false⟩ Settings.target true := rfl
          rw [run_of_started hwords hfind hstart, hcommand, Command.initAt, Bool.not_true,
            Bool.and_false, if_neg Bool.false_ne_true, Settings.save_target hstill]
          by_cases hdirectory : started.files.entry? (Settings.place started.files) = some .directory
          · rw [if_pos hdirectory]
            exact .occupied hfind hstart hdirectory
          · rw [if_neg hdirectory]
            exact .written _ hfind hstart hdirectory

end Runs

namespace StartsOver

variable {w : World} {o : Outcome}

theorem place_of_startLog {started : World} {settings : LoggingSettings} {i : Invocation}
    (hstart : startLog w settings i = .ok started) :
    Settings.place started.files = Settings.place w.files :=
  congrArg (· ++ [Settings.target]) (keeps_startLog hstart).workingDirectory

theorem code_eq_zero_iff (hends : StartsOver w o) :
    o.code = 0 ↔ ∃ settings started, w.findSettings none = .ok settings ∧
      startLog w settings.logging .startOver = .ok started ∧
      started.files.entry? (Settings.place w.files) ≠ some .directory := by
  cases hends with
  | @unsettled f hfind =>
      refine iff_of_false f.exitCode_ne_zero ?_
      rintro ⟨settings, -, hfound, -⟩
      exact absurd (hfind.symm.trans hfound) nofun
  | blocked hfind hstart =>
      refine iff_of_false nofun ?_
      rintro ⟨settings, started, hfound, hstarted, -⟩
      obtain rfl := Except.ok.inj (hfind.symm.trans hfound)
      exact absurd (hstart.symm.trans hstarted) nofun
  | occupied hfind hstart hdirectory =>
      refine iff_of_false nofun ?_
      rintro ⟨settings, started, hfound, hstarted, hfree⟩
      obtain rfl := Except.ok.inj (hfind.symm.trans hfound)
      obtain rfl := Except.ok.inj (hstart.symm.trans hstarted)
      exact hfree (place_of_startLog hstart ▸ hdirectory)
  | written printed hfind hstart hfree =>
      exact iff_of_true rfl ⟨_, _, hfind, hstart, place_of_startLog hstart ▸ hfree⟩

/-- The files are the old ones with the standard settings in their place, up to the log
and to what was made for it. -/
theorem keeps_of_written (hends : StartsOver w o) (hzero : o.code = 0) :
    Keeps (Invocation.startOver.logPlace? w)
      (w.files.put (Settings.place w.files) (.file Settings.standardBytes)) o.files := by
  cases hends with
  | @unsettled f hfind => exact absurd hzero f.exitCode_ne_zero
  | blocked | occupied => exact absurd hzero nofun
  | @written settings started printed hfind hstart hfree =>
      have hlogs := World.LogsOn.logNext started.startedOver
      have hplaced : Keeps started.sink.place?
          (w.files.put (Settings.place w.files) (.file Settings.standardBytes))
          started.startedOver.files := by
        rw [World.startedOver, place_of_startLog hstart]
        exact (keeps_startLog hstart).put_both (Settings.place_ne_root _) _
      rw [logPlace?_of_started hfind hstart]
      exact hplaced.trans (.of_grown hlogs.files)

theorem load_of_written (hends : StartsOver w o)
    (hthere : w.files.entry? w.files.workingDirectory = some .directory) (hzero : o.code = 0)
    (hother : Invocation.startOver.logPlace? w ≠ some (Settings.place w.files)) :
    Settings.load o.files Settings.target = .ok .standard := by
  cases hends with
  | @unsettled f hfind => exact absurd hzero f.exitCode_ne_zero
  | blocked | occupied => exact absurd hzero nofun
  | @written settings started printed hfind hstart hfree =>
      have hstill := (keeps_startLog hstart).start_directory hthere
      have hsave : Settings.save started.files Settings.target .standard =
          .ok started.startedOver.files := by
        rw [Settings.save_target hstill, if_neg hfree]
        rfl
      have hlogs := World.LogsOn.logNext started.startedOver
      -- The path still leads to the place that was written, which is not the log's.
      have hlocate : started.startedOver.files.locate Settings.target =
          .ok (Settings.place started.files) :=
        (LeadsOn.put hfree _).locate (Settings.locate_target hstill)
      rw [Settings.load_eq_of_grown hlogs.files, Settings.load_of_save hsave]
      intro place hplace
      obtain rfl := Except.ok.inj (hlocate.symm.trans hplace)
      rw [logPlace?_of_started hfind hstart, ← place_of_startLog hstart] at hother
      exact hother

theorem of_no_log_file (hends : StartsOver w o) {settings : Settings}
    (hfound : w.findSettings none = .ok settings) (hnone : settings.logging.file = none)
    (hunset : w.lookUp? fileVariable = none)
    (hfree : w.files.entry? (Settings.place w.files) ≠ some .directory) :
    o.code = 0 ∧ ∀ other, other ≠ Settings.place w.files →
      o.files.entry? other = w.files.entry? other := by
  obtain ⟨started, hstarted, hfiles, hsink⟩ :=
    exists_startLog_of_no_file .startOver hnone hunset
  have hzero : o.code = 0 :=
    hends.code_eq_zero_iff.2 ⟨_, _, hfound, hstarted, hfiles ▸ hfree⟩
  refine ⟨hzero, fun other hother => ?_⟩
  cases hends with
  | @unsettled f hfind => exact absurd hzero f.exitCode_ne_zero
  | blocked | occupied => exact absurd hzero nofun
  | written printed hfind hstart =>
      obtain rfl := Except.ok.inj (hfind.symm.trans hfound)
      obtain rfl := Except.ok.inj (hstarted.symm.trans hstart)
      have hlogged : started.startedOver.logNext.files = started.startedOver.files :=
        World.files_logNext hsink
      rw [hlogged, World.startedOver, hfiles]
      exact (entry?_put _ (Settings.place_ne_root _)).trans (if_neg hother)

theorem keeps_of_failed (hends : StartsOver w o) (hfailed : o.code ≠ 0) :
    o.printed = "" ∧ Keeps (Invocation.startOver.logPlace? w) w.files o.files := by
  cases hends with
  | unsettled => exact ⟨rfl, .refl w.files⟩
  | blocked hfind hstart => exact ⟨rfl, .of_addsDirectories (addsDirectories_startLog hstart)⟩
  | @occupied settings started hfind hstart =>
      refine ⟨rfl, ?_⟩
      rw [logPlace?_of_started hfind hstart]
      exact (keeps_startLog hstart).trans (.of_grown (World.LogsOn.logNext started).files)
  | written => exact absurd rfl hfailed

/-- The file that would be replaced is read first. -/
theorem of_unreadable (hends : StartsOver w o) {e : Settings.LoadError}
    (hhas : w.files.has Settings.target = true)
    (hload : Settings.load w.files Settings.target = .error e) :
    o.code = (Failure.ofSettings e).exitCode ∧ o.code ≠ 0 ∧ o.files = w.files := by
  have hpath : Settings.findPath? w.files w.userSettingsPath? = some Settings.target := by
    have hproject : Settings.projectPath? w.files = some Settings.target :=
      List.find?_cons_of_pos hhas
    rw [Settings.findPath?, hproject]
    rfl
  have hunsettled : w.findSettings none = .error (.ofSettings e) := by
    rw [World.findSettings, Settings.find, Option.none_or, hpath]
    simp only [hload]
    rfl
  cases hends with
  | unsettled hfind =>
      obtain rfl := Except.error.inj (hfind.symm.trans hunsettled)
      exact ⟨rfl, Failure.exitCode_ne_zero _, rfl⟩
  | blocked hfind | occupied hfind | written _ hfind =>
      exact absurd (hfind.symm.trans hunsettled) nofun

end StartsOver

/-- Forced initialisation ends with zero exactly when the settings in effect can be
read, the log that they ask for is not blocked, and no directory is in the place of
the file.  Then the standard settings are in that place and everything else that was
there is as before, except that the log file may have grown; and the standard settings
are read back unless the log goes to their own file.  Without a log file nothing else
comes into being either.  When it does not end with zero nothing is printed and nothing
is lost or replaced.  This is so in particular when the file that is to be replaced is
itself the reason why there are no settings. -/
theorem forced_init_verdict {w : World}
    (hunnamed : w.lookUp? Invocation.settingsVariable = none)
    (hthere : w.files.entry? w.files.workingDirectory = some .directory) :
    let place := Settings.place w.files
    let log := Invocation.startOver.logPlace? w
    let o := run w ["config", "init", "--force"]
    (o.code = 0 ↔ ∃ settings started, w.findSettings none = .ok settings ∧
      startLog w settings.logging .startOver = .ok started ∧
      started.files.entry? place ≠ some .directory) ∧
    (o.code = 0 →
      Keeps log (w.files.put place (.file Settings.standardBytes)) o.files ∧
      (log ≠ some place → Settings.load o.files Settings.target = .ok .standard) ∧
      ∀ other entry, other ≠ place → log ≠ some other → w.files.entry? other = some entry →
        o.files.entry? other = some entry) ∧
    (∀ settings, w.findSettings none = .ok settings → settings.logging.file = none →
      w.lookUp? fileVariable = none → w.files.entry? place ≠ some .directory →
      o.code = 0 ∧ ∀ other, other ≠ place → o.files.entry? other = w.files.entry? other) ∧
    (o.code ≠ 0 → o.printed = "" ∧ Keeps log w.files o.files) ∧
    ∀ e, w.files.has Settings.target = true → Settings.load w.files Settings.target = .error e →
      o.code = (Failure.ofSettings e).exitCode ∧ o.code ≠ 0 ∧ o.files = w.files := by
  intro place log o
  have hends : StartsOver w o := startsOver_run hunnamed hthere
  refine ⟨hends.code_eq_zero_iff, fun hzero => ?_, ?_, hends.keeps_of_failed, ?_⟩
  · have hkeeps := hends.keeps_of_written hzero
    refine ⟨hkeeps, hends.load_of_written hthere hzero, ?_⟩
    intro other entry hother hunlogged hentry
    refine (hkeeps.entries other entry ?_).resolve_right fun hlogged => hunlogged hlogged.1
    rw [entry?_put _ (Settings.place_ne_root _), if_neg hother, hentry]
  · intro settings hfound hnone hunset hfree
    exact hends.of_no_log_file hfound hnone hunset hfree
  · intro e hhas hload
    exact hends.of_unreadable hhas hload

/-- A settings file of a project in another format is left alone, and the log that it
asks for goes on. -/
theorem forced_init_verdict_json :
    let settings := Text.encode
      "\x7b\"logging\": \x7b\"level\": \"info\", \"file\": \"run.log\"\x7d\x7d"
    let w : World := { World.silent (.ofEntries [] [(".blockdef.json", .file settings),
        ("run.log", .file (Text.encode "old\n"))]) [] [] with
      logger := ⟨[" INFO Executing command\n", " INFO Operation completed\n"], fun _ _ => ""⟩ }
    let o := run w ["config", "init", "--force"]
    w.lookUp? Invocation.settingsVariable = none ∧
      w.files.entry? w.files.workingDirectory = some .directory ∧
      o.code = 0 ∧ Settings.load o.files Settings.target = .ok .standard ∧
      o.files.entry? [".blockdef.json"] = some (.file settings) ∧
      o.files.readText "run.log" =
        .ok "old\n INFO Executing command\n INFO Operation completed\n" := by
  intro settings w o
  have hunnamed : w.lookUp? Invocation.settingsVariable = none := by decide +kernel
  have hthere : w.files.entry? w.files.workingDirectory = some .directory := by decide +kernel
  have hlog : Invocation.startOver.logPlace? w = some ["run.log"] := by decide +kernel
  have hcode : o.code = 0 := by decide +kernel
  have hread : o.files.readText "run.log" =
      .ok "old\n INFO Executing command\n INFO Operation completed\n" := by decide +kernel
  obtain ⟨-, hwritten, -, -, -⟩ := forced_init_verdict hunnamed hthere
  obtain ⟨-, hload, hothers⟩ := hwritten hcode
  rw [hlog] at hload hothers
  exact ⟨hunnamed, hthere, hcode, hload (by decide), hothers _ _ (by decide) (by decide) rfl, hread⟩

/-- A file that is not in TOML is not replaced. -/
theorem forced_init_malformed :
    let w := World.silent (.ofEntries [] [(".blockdef.toml", .file (Text.encode "= broken"))]) [] []
    let o := run w ["config", "init", "--force"]
    w.lookUp? Invocation.settingsVariable = none ∧
      w.files.entry? w.files.workingDirectory = some .directory ∧
      o.code = 5 ∧ o.files.read ".blockdef.toml" = .ok (Text.encode "= broken") ∧
      Settings.load o.files ".blockdef.toml" ≠ .ok .standard := by
  decide +kernel

end EditorBlocks
