import EditorBlocks.Command.Export
import EditorBlocks.Command.Log
import EditorBlocks.Command.Settings
import EditorBlocks.Command.Validate

/-!
# Running the program

From the words of a command line to what is printed, the files that are changed
and the code at the end.
-/

namespace EditorBlocks

/-- What a run leaves behind. -/
structure Outcome where
  code : Nat
  printed : String
  complaints : String
  files : Files

def runCommand (w : World) (settings : Settings) (i : Invocation) : Ending :=
  let p : Printer := ⟨i.output.getD settings.output.format, i.quiet⟩
  match i.command with
  | .validate paths mode failFast => validateFiles w settings.validation p paths mode failFast
  | .inspect path index mode => inspectFile w settings.validation p path index mode
  | .schema saveTo => Command.writeSchema w p saveTo
  | .settingsInit user force => Command.initSettings w p user force
  | .settingsShow format => .success (Printer.ended (settings.write format)) w
  | .settingsPath => Command.showPath w p i.settingsPath
  | .completions shell => .success (Printer.line (Command.completion shell)) w

/-! ## Runs -/

/-- The code of a line that is not understood. -/
def misuseCode : Nat := 2

/-- The code of a run that cannot go on. -/
def brokenCode : Nat := 101

def version : String := "0.1.0"

def usage : String :=
  "Usage: " ++ Invocation.grammar.name ++ " [OPTIONS] <" ++
    "|".intercalate (Invocation.grammar.subcommands.map CommandLine.Grammar.name) ++ ">\n"

/-- What a run comes to when its line asks for no command. -/
def stopped (w : World) (stop : CommandLine.Stop) : Outcome :=
  match stop with
  | .help => ⟨0, usage, w.complaints, w.files⟩
  | .version names => ⟨0, "-".intercalate names ++ " " ++ version ++ "\n", w.complaints, w.files⟩
  | .nothingGiven => ⟨misuseCode, "", w.complaints ++ usage, w.files⟩
  | stop =>
    ⟨misuseCode, "", w.complaints ++ "error: " ++ stop.message ++ "\n\n" ++ usage, w.files⟩

/-- What a run comes to when its command has ended.  The log ends before the failure is
reported. -/
def Ending.outcome (e : Ending) : Outcome :=
  let w := e.world.logNext
  match e.failure with
  | none => ⟨0, e.printed, w.complaints, w.files⟩
  | some f => ⟨f.exitCode, e.printed, w.complaints ++ f.report, w.files⟩

def runInvocation (w : World) (i : Invocation) : Outcome :=
  match w.findSettings i.settingsPath with
  | .error f => ⟨f.exitCode, "", w.complaints ++ f.report, w.files⟩
  | .ok settings =>
    match startLog w settings.logging i with
    | .error broken => ⟨brokenCode, "", broken.complaints, broken.files⟩
    | .ok started => (runCommand started settings i).outcome

/-- Runs the program with the words of a command line. -/
def run (w : World) (words : List String) : Outcome :=
  match Invocation.read w.environment words with
  | .error stop => stopped w stop
  | .ok i => runInvocation w i

end EditorBlocks
