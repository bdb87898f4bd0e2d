import EditorBlocks.CommandLine.Parser
import EditorBlocks.Output.Format
import EditorBlocks.Settings.Basic
import EditorBlocks.Validation.Context

/-!
# Invocations

The command line of the program: its commands, their flags, and what a line
asks for.
-/

namespace EditorBlocks

inductive Shell where
  | bash
  | elvish
  | fish
  | powershell
  | zsh
deriving DecidableEq, Repr

namespace Shell

def all : List Shell := [.bash, .elvish, .fish, .powershell, .zsh]

def name : Shell → String
  | .bash => "bash"
  | .elvish => "elvish"
  | .fish => "fish"
  | .powershell => "powershell"
  | .zsh => "zsh"

def ofName? (name : String) : Option Shell := all.find? (·.name = name)

end Shell

inductive Command where
  | validate (files : List String) (mode : Option Validation.Mode) (failFast : Bool)
  | inspect (file : String) (index : Option Nat) (mode : Option Validation.Mode)
  | schema (saveTo : Option String)
  | settingsInit (user force : Bool)
  | settingsShow (format : Settings.Format)
  | settingsPath
  | completions (shell : Shell)
deriving DecidableEq, Repr

structure Invocation where
  command : Command
  /-- How often more log output was asked for. -/
  verbose : Nat
  quiet : Bool
  /-- The settings file that was named. -/
  settingsPath : Option String
  output : Option OutputFormat
  noColour : Bool
deriving DecidableEq, Repr

namespace Invocation

/-- Who asks for quiet gets no more log output. -/
def verbosity (i : Invocation) : Nat := if i.quiet then 0 else i.verbose

/-! ## The grammar -/

section Grammar

open CommandLine

def switch (name : String) (short : Option Char) : Flag := ⟨name, short, .present, none, none⟩

def valued (name : String) (short : Option Char) (rule : ValueRule) : Flag :=
  ⟨name, short, .value rule, none, none⟩

/-- What names the settings file in the environment. -/
def settingsVariable : String := "BLOCKDEF_CONFIG"

/-- The flags that every command takes. -/
def globalFlags : List Flag :=
  [⟨"verbose", some 'v', .count, none, none⟩,
    ⟨"quiet", some 'q', .present, some "verbose", none⟩,
    ⟨"config", some 'c', .value .path, none, some settingsVariable⟩,
    valued "output" (some 'o') (.oneOf (OutputFormat.all.map OutputFormat.name)),
    switch "no-color" none,
    ⟨"help", some 'h', .help, none, none⟩,
    ⟨"version", some 'V', .version, none, none⟩]

def leaf (name : String) (flags : List Flag) (arguments : List CommandLine.Argument) : Grammar :=
  .command name (flags ++ globalFlags) arguments []

def modeFlag : Flag :=
  valued "mode" (some 'm') (.oneOf (Validation.Mode.all.map Validation.Mode.name))

def settingsGrammar : Grammar :=
  .command "config" globalFlags []
    [leaf "init" [switch "user" none, switch "force" none] [],
      leaf "show"
        [valued "format" (some 'f') (.oneOf (Settings.Format.all.map Settings.Format.name))] [],
      leaf "path" [] []]

def grammar : Grammar :=
  .command "blockdef" globalFlags []
    [leaf "validate" [modeFlag, switch "fail-fast" none] [⟨"FILES", .path, true⟩],
      leaf "inspect" [valued "index" none .number, modeFlag] [⟨"FILE", .path, false⟩],
      leaf "schema" [valued "save-to" none .path] [],
      settingsGrammar,
      leaf "completions" [] [⟨"SHELL", .oneOf (Shell.all.map Shell.name), false⟩]]

end Grammar

/-! ## What a line asks for -/

/-- The value that the innermost command of those that have one was given. -/
def innermost {α : Type} (f : CommandLine.Given → Option α) (givens : List CommandLine.Given) :
    Option α := givens.reverse.findSome? f

def commandOf (names : List String) (given : CommandLine.Given) : Option Command :=
  let mode := (given.value? "mode").bind Validation.Mode.ofName?
  match names.drop 1 with
  | ["validate"] => some (.validate (given.valuesOf "FILES") mode (given.has "fail-fast"))
  | ["inspect"] =>
    (given.value? "FILE").map fun file =>
      .inspect file ((given.value? "index").bind CommandLine.number?) mode
  | ["schema"] => some (.schema (given.value? "save-to"))
  | ["config", "init"] => some (.settingsInit (given.has "user") (given.has "force"))
  | ["config", "show"] =>
    some (.settingsShow (((given.value? "format").bind Settings.Format.ofName?).getD .toml))
  | ["config", "path"] => some .settingsPath
  | ["completions"] => ((given.value? "SHELL").bind Shell.ofName?).map .completions
  | _ => none

/-- What a line that was read asks for.  A flag that all commands take counts
where it was given innermost. -/
def ofLine? (environment : CommandLine.Environment) (line : CommandLine.Line) :
    Option Invocation := do
  let command ← commandOf line.names (← line.givens.getLast?)
  let value := fun name => innermost (·.value? name) line.givens
  return {
    command
    verbose := (innermost (fun g => g.counts.lookup "verbose") line.givens).getD 0
    quiet := line.givens.any (·.has "quiet")
    settingsPath := (value "config").or (environment.lookup settingsVariable)
    output := (value "output").bind OutputFormat.ofName?
    noColour := line.givens.any (·.has "no-color") }

def read (environment : CommandLine.Environment) (words : List String) :
    Except CommandLine.Stop Invocation := do
  let line ← CommandLine.read environment grammar words
  match ofLine? environment line with
  | some i => return i
  | none => throw .subcommandMissing

end Invocation

end EditorBlocks
