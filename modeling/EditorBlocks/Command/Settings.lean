import EditorBlocks.Command.Ending
import EditorBlocks.Command.Printer

/-!
# Commands on settings

Writing a settings file with the standard settings, and telling which file is in
effect.
-/

namespace EditorBlocks.Command

/-- Writes the standard settings to a path, but over nothing that is there
unless forced to. -/
def initAt (w : World) (p : Printer) (path : String) (force : Bool) : Ending :=
  if w.files.has path && !force then
    .success (p.warning ("Config already exists at " ++ path ++ " (use --force to overwrite)")) w
  else
    match Settings.save w.files path .standard with
    | .error halt => .failed { w with files := halt.files } (.io halt.fault)
    | .ok files =>
      .success (p.success ("Created config at " ++ path) ++
        p.info "Edit it to change the default validation mode, output and logging.")
        { w with files }

def initSettings (w : World) (p : Printer) (user force : Bool) : Ending :=
  if user then
    match w.userSettingsPath? with
    | some path => initAt w p path force
    | none => .failed w (.settings .noUserDirectory)
  else initAt w p (Settings.projectPaths.headD "") force

def showPath (w : World) (p : Printer) (named : Option String) : Ending :=
  match named.or (Settings.findPath? w.files w.userSettingsPath?) with
  | some path => .success (Printer.line path) w
  | none =>
    let hint := match w.userSettingsPath? with
      | some path => p.info ("User config would be read from " ++ path)
      | none => ""
    .success (p.info "No configuration file found; built-in defaults are in effect" ++ hint) w

end EditorBlocks.Command
