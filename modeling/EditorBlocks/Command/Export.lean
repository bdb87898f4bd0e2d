import EditorBlocks.Command.Ending
import EditorBlocks.Command.Printer
import EditorBlocks.CommandLine.Invocation
import EditorBlocks.Schema.Export

/-!
# Commands for other tools

The schema of definitions, and the names of the commands for shells.
-/

namespace EditorBlocks.Command

def writeSchema (w : World) (p : Printer) (saveTo : Option String) : Ending :=
  let schema := Schema.JsonSchema.toJson Schema.exported
  match saveTo with
  | none => .success (p.data schema) w
  | some path =>
    match w.files.save path (Text.encode schema.pretty) with
    | .error halt => .failed { w with files := halt.files } (.io halt.fault)
    | .ok files => .success (p.success ("Schema written to " ++ path)) { w with files }

/-- A line that makes a shell offer the names of the commands. -/
def completion (shell : Shell) : String :=
  let words := " ".intercalate (Invocation.grammar.subcommands.map CommandLine.Grammar.name)
  let program := Invocation.grammar.name
  match shell with
  | .bash => "complete -W '" ++ words ++ "' " ++ program
  | .zsh => "compdef '_values command " ++ words ++ "' " ++ program
  | .fish => "complete -c " ++ program ++ " -a '" ++ words ++ "'"
  | .elvish =>
    "set edit:completion:arg-completer[" ++ program ++ "] = \x7b|@_| put " ++ words ++ " \x7d"
  | .powershell =>
    "Register-ArgumentCompleter -Native -CommandName " ++ program ++ " -ScriptBlock \x7b '" ++
      words ++ "' -split ' ' \x7d"

end EditorBlocks.Command
