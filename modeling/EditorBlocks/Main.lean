import EditorBlocks.Command.Reach

/-!
# The command line

Finds out what a run depends on, lets it happen, and carries out what it comes
to.  Nothing is logged.
-/

namespace EditorBlocks

/-- What is at a path. -/
def lookAt (path : String) : IO (Option Files.Entry) := do
  let full := (← IO.currentDir) / path
  if ← full.isDir then return some .directory
  if ← full.pathExists then return some (.file (← IO.FS.readBinFile full).toList)
  return none

/-- Notes what is on the way of paths and at their ends. -/
def gather (files : Files) (paths : List String) : IO Files :=
  (paths.flatMap Files.waypoints).foldlM (fun files path => do
    match ← lookAt path with
    | some entry => return files.note path entry
    | none => return files) files

def gatherEnvironment : IO CommandLine.Environment :=
  World.variables.filterMapM fun name => do
    return (← IO.getEnv name).map fun value => (name, value)

/-- All bytes of a stream that are still to come. -/
partial def readAll (stream : IO.FS.Stream) (before : List UInt8) : IO (List UInt8) := do
  let bytes ← stream.read 4096
  if bytes.isEmpty then return before
  readAll stream (before ++ bytes.toList)

/-- The surroundings of a run, as far as it depends on them. -/
def gatherWorld (environment : CommandLine.Environment) (i : Invocation) : IO World := do
  let names := (Text.split '/' (← IO.currentDir).toString).filter fun name => name ≠ ""
  let empty := World.silent (.ofEntries names []) [] environment
  let files ← gather empty.files (i.settingsPaths empty ++ i.commandPaths)
  let w : World := { empty with files }
  let files ← gather files (i.logPaths w)
  let input ← if i.readsInput then readAll (← IO.getStdin) [] else pure []
  return { w with files, input }

def pathOf (place : Files.Place) : String := "/" ++ "/".intercalate place

def makeDirectory (place : Files.Place) : IO Unit := IO.FS.createDirAll (pathOf place)

def writeChange (place : Files.Place) (bytes : List UInt8) : IO Unit := do
  makeDirectory place.dropLast
  IO.FS.writeBinFile (pathOf place) ⟨bytes.toArray⟩

end EditorBlocks

open EditorBlocks in
/-- Runs the program once. -/
def main (words : List String) : IO UInt32 := do
  let environment ← gatherEnvironment
  let w ← match Invocation.read environment words with
    | .ok i => gatherWorld environment i
    | .error _ => pure (.silent (.ofEntries [] []) [] environment)
  let outcome := run w words
  for place in Files.newDirectories w.files outcome.files do
    makeDirectory place
  for (place, bytes) in Files.changes w.files outcome.files do
    writeChange place bytes
  IO.print outcome.printed
  IO.eprint outcome.complaints
  return outcome.code.toUInt32
