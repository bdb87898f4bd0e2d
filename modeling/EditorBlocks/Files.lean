import EditorBlocks.Text.Split
import EditorBlocks.Text.Utf8

/-!
# Files

A tree of files and a working directory in it.  A path leads from name to name
through directories, from the working directory or, with a leading slash, from
the root.
-/

namespace EditorBlocks

namespace Files

inductive Entry where
  | file (bytes : List UInt8)
  | directory
deriving DecidableEq, Repr

/-- The names that lead from the root to a place. -/
abbrev Place := List String

/-- Why an operation on files fails. -/
inductive Fault where
  | notFound
  | alreadyExists
  | notADirectory
  | isADirectory
  | nameTooLong
  /-- A path that holds the character zero, which would end it. -/
  | zeroInPath
  | notText
  /-- Any other reason, in the words of the system. -/
  | other (text : String)
deriving DecidableEq, Repr

def Fault.message : Fault → String
  | .notFound => "No such file or directory (os error 2)"
  | .alreadyExists => "File exists (os error 17)"
  | .notADirectory => "Not a directory (os error 20)"
  | .isADirectory => "Is a directory (os error 21)"
  | .nameTooLong => "File name too long (os error 36)"
  | .zeroInPath => "file name contained an unexpected NUL byte"
  | .notText => "stream did not contain valid UTF-8"
  | .other text => text

end Files

structure Files where
  workingDirectory : Files.Place
  entries : List (Files.Place × Files.Entry)
deriving DecidableEq, Repr

namespace Files

/-- An operation of several steps that failed.  What its first steps did is not
undone. -/
structure Halt where
  fault : Fault
  files : Files
deriving DecidableEq, Repr

/-- What is at a place.  The root is always there. -/
def entry? (files : Files) : Place → Option Entry
  | [] => some .directory
  | place => files.entries.lookup place

/-- How many bytes a name and a path may have. -/
def nameLimit : Nat := 255

def pathLimit : Nat := 4095

/-- Goes from one place to the next; only a directory leads on. -/
def step (files : Files) (place : Place) (name : String) : Except Fault Place :=
  match files.entry? place with
  | none => .error .notFound
  | some (.file _) => .error .notADirectory
  | some .directory =>
    if name = "" ∨ name = "." then .ok place
    else if name = ".." then .ok place.dropLast
    else if nameLimit < name.utf8ByteSize then .error .nameTooLong
    else .ok (place ++ [name])

/-- Where a path starts. -/
def start (files : Files) (path : String) : Place :=
  if path.startsWith "/" then [] else files.workingDirectory

/-- The names on the way of a path, if it can be a path at all. -/
def names (path : String) : Except Fault (List String) :=
  if path.toList.contains '\x00' then .error .zeroInPath
  else if path = "" then .error .notFound
  else if pathLimit < path.utf8ByteSize then .error .nameTooLong
  else .ok (Text.split '/' path)

/-- The place that a path leads to, which need not hold anything yet. -/
def locate (files : Files) (path : String) : Except Fault Place := do
  (← names path).foldlM files.step (files.start path)

def has (files : Files) (path : String) : Bool :=
  match files.locate path with
  | .ok place => (files.entry? place).isSome
  | .error _ => false

def read (files : Files) (path : String) : Except Fault (List UInt8) := do
  match files.entry? (← files.locate path) with
  | none => throw .notFound
  | some .directory => throw .isADirectory
  | some (.file bytes) => return bytes

def readText (files : Files) (path : String) : Except Fault String := do
  (Text.decode (← files.read path)).mapError fun _ => .notText

/-- Puts an entry at a place, instead of what was there. -/
def put (files : Files) (place : Place) (entry : Entry) : Files :=
  { files with entries := (place, entry) :: files.entries.filter (·.1 ≠ place) }

/-- Writes a file into a directory that is there. -/
def write (files : Files) (path : String) (bytes : List UInt8) : Except Fault Files := do
  let bare := String.ofList (path.toList.reverse.dropWhile (· = '/')).reverse
  let place ← files.locate bare
  if bare ≠ path then throw .isADirectory
  match files.entry? place with
  | some .directory => throw .isADirectory
  | _ => return files.put place (.file bytes)

/-- Opens a file to write at its end.  There is an empty one afterwards if there was
nothing. -/
def openEnd (files : Files) (path : String) : Except Fault (Files × Place) := do
  let place ← files.locate path
  match files.entry? place with
  | none => return (files.put place (.file []), place)
  | some .directory => throw .isADirectory
  | some (.file _) => return (files, place)

/-- Writes at the end of the file at a place. -/
def append (files : Files) (place : Place) (bytes : List UInt8) : Files :=
  match files.entry? place with
  | some (.file before) => files.put place (.file (before ++ bytes))
  | _ => files

/-- Goes on to a name, where a directory is made if nothing is there. -/
def enter (position : Files × Place) (name : String) : Except Halt (Files × Place) := do
  let (files, place) := position
  let next ← (files.step place name).mapError (⟨·, files⟩)
  match files.entry? next with
  | none => return (files.put next .directory, next)
  | some _ => return (files, next)

/-- What a walk halts with that makes directories.  Behind a new directory it makes one
name at a time, so it meets a file there as something in its place. -/
def Halt.since (before : Files) (halt : Halt) : Halt :=
  if halt.fault = .notADirectory ∧ halt.files ≠ before then { halt with fault := .alreadyExists }
  else halt

/-- Makes the directories that a path goes through and the one it leads to. -/
def createDirectory (files : Files) (path : String) : Except Halt Files := do
  let names ← (names path).mapError (⟨·, files⟩)
  let (after, place) ← (names.foldlM enter (files, files.start path)).mapError (.since files)
  match after.entry? place with
  | some (.file _) => throw ⟨.alreadyExists, after⟩
  | _ => return after

/-- The path of the directory that a file is in, unless it is the working
directory or the root. -/
def parent? (path : String) : Option String :=
  let names := (Text.split '/' path).filter fun name => name ≠ "" && name ≠ "."
  match names.dropLast with
  | [] => none
  | names => some ((if path.startsWith "/" then "/" else "") ++ "/".intercalate names)

/-- Writes a file, after making the directories on its way. -/
def save (files : Files) (path : String) (bytes : List UInt8) : Except Halt Files := do
  let files ← (parent? path).elim (.ok files) files.createDirectory
  (files.write path bytes).mapError (⟨·, files⟩)

/-- Puts an entry at a place, and directories above it. -/
def plant (files : Files) (place : Place) (entry : Entry) : Files :=
  let above := (List.range place.length).drop 1
  (above.foldl (fun files n => files.put (place.take n) .directory) files).put place entry

/-- A tree with entries at paths from the working directory, which hold names
only. -/
def ofEntries (workingDirectory : Place) (entries : List (String × Entry)) : Files :=
  entries.foldl
    (fun files (path, entry) => files.plant (workingDirectory ++ Text.split '/' path) entry)
    ((Files.mk workingDirectory []).plant workingDirectory .directory)

/-- The directories that were not there before, the first of which was made last. -/
def newDirectories (before after : Files) : List Place :=
  after.entries.filterMap fun (place, entry) =>
    if entry = .directory ∧ before.entry? place = none then some place else none

/-- The files that were not there before, or not with these bytes. -/
def changes (before after : Files) : List (Place × List UInt8) :=
  after.entries.filterMap fun (place, entry) =>
    match entry with
    | .directory => none
    | .file bytes => if before.entry? place = some entry then none else some (place, bytes)

end Files

end EditorBlocks
