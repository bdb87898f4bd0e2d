import EditorBlocks.Command.World
import EditorBlocks.CommandLine.Invocation

/-!
# The log of a run

What the environment says about the log, and making its file.
-/

namespace EditorBlocks

/-- What the environment changes about a log plan, and what it is told. -/
def LogPlan.withEnvironment (w : World) (plan : LogPlan) : LogPlan × String :=
  let plan := { plan with
    level := (w.lookUp? levelVariable).getD plan.level
    file := (w.lookUp? fileVariable).or plan.file }
  match w.lookUp? formatVariable with
  | none => (plan, "")
  | some name =>
    match LogFormat.read name with
    | .ok format => ({ plan with format }, "")
    | .error _ => (plan, "Ignoring invalid " ++ formatVariable ++ " '" ++ name ++ "'\n")

/-- What goes wrong when a log is opened. -/
inductive LogFailure where
  | unusable (f : Failure)
  /-- The log file itself cannot be opened. -/
  | blocked (path : String) (reason : Files.Fault)
deriving DecidableEq, Repr

/-- The failure to open a log, and what it left of the files. -/
structure LogHalt where
  failure : LogFailure
  files : Files
deriving DecidableEq, Repr

namespace LogPlan

/-- Opens the log.  Its file is made if there is none, and the directories above it
as well. -/
def openLog (files : Files) (plan : LogPlan) : Except LogHalt (LogSink × Files) := do
  (LogFilter.check plan.level).mapError fun fault =>
    ⟨.unusable (.settings (.log (.badFilter plan.level fault))), files⟩
  match plan.file with
  | none => return (.errors, files)
  | some path =>
    let some name := Document.fileName? path
      | throw ⟨.unusable (.settings (.log (.badPath path))), files⟩
    let directory := Files.parent? path
    let files ← (directory.elim (.ok files) files.createDirectory).mapError fun halt =>
      ⟨.unusable (.io halt.fault), halt.files⟩
    let path := match directory with
      | none => if path.startsWith "/" then "/" ++ name else name
      | some directory => World.below directory name
    match files.openEnd path with
    | .ok (files, place) => return (.file place, files)
    | .error reason => throw ⟨.blocked path reason, files⟩

end LogPlan

/-- The surroundings when a log goes to a sink, or to none after complaints about it. -/
def World.withLog (w : World) (sink : LogSink) (files : Files) (told : String) : World :=
  { w with files, sink, complaints := w.complaints ++ told }

/-- How the start of the log ends: a command can follow, with the log or without one, or
the program cannot go on. -/
def startLog (w : World) (settings : LoggingSettings) (i : Invocation) : Except World World :=
  let failed := fun (f : Failure) => "Failed to initialize logging: " ++ f.message ++ "\n"
  match LogPlan.resolve settings i.verbosity i.quiet with
  | .error fault => .ok (w.withLog .nowhere w.files (failed (.settings (.log fault))))
  | .ok plan =>
    let (plan, told) := plan.withEnvironment w
    match plan.openLog w.files with
    | .ok (sink, files) => .ok (w.withLog sink files told).logNext
    | .error ⟨.unusable f, files⟩ => .ok (w.withLog .nowhere files (told ++ failed f))
    | .error ⟨.blocked path reason, files⟩ =>
      .error (w.withLog .nowhere files (told ++ w.logger.refusal path reason))

end EditorBlocks
