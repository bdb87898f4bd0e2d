import EditorBlocks.Command.Run

/-!
# What a run can reach

The variables and the paths that a run may look at.  Only these have to be known
before it starts.
-/

namespace EditorBlocks

/-- The environment variables that have a meaning. -/
def World.variables : List String :=
  [Invocation.settingsVariable, levelVariable, formatVariable, fileVariable, homeVariable,
    settingsHomeVariable]

namespace Invocation

/-- Where settings may be. -/
def settingsPaths (w : World) (i : Invocation) : List String :=
  Settings.projectPaths ++ w.userSettingsPath?.toList ++ i.settingsPath.toList

/-- The files that the command names. -/
def commandPaths (i : Invocation) : List String :=
  match i.command with
  | .validate paths .. => paths
  | .inspect path .. => [path]
  | .schema saveTo => saveTo.toList
  | _ => []

/-- Where the log may go, by the settings that are in effect. -/
def logPaths (w : World) (i : Invocation) : List String :=
  let set := match w.findSettings i.settingsPath with
    | .ok settings => settings.logging.file
    | .error _ => none
  (w.lookUp? fileVariable).toList ++ set.toList

/-- The command reads the standard input. -/
def readsInput (i : Invocation) : Bool := i.commandPaths.any World.isInput

end Invocation

/-- The paths on the way of a path, and the path itself. -/
def Files.waypoints (path : String) : List String :=
  let names := Text.split '/' path
  (List.range names.length).filterMap fun n =>
    let way := "/".intercalate (names.take (n + 1))
    if way = "" then none else some way

/-- Notes what is at a path, when all that leads there is noted. -/
def Files.note (files : Files) (path : String) (entry : Files.Entry) : Files :=
  match files.locate path with
  | .ok place => files.put place entry
  | .error _ => files

end EditorBlocks
