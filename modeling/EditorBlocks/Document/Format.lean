import EditorBlocks.Text.Blank
import EditorBlocks.Text.Split

/-!
# Formats of documents

The two formats that definitions are written in, and which of them a file name
calls for.
-/

namespace EditorBlocks.Document

inductive Format where
  | yaml
  | json
deriving DecidableEq, Repr

/-- The last component of a path that is a name; a path that ends elsewhere has
none. -/
def fileName? (path : String) : Option String :=
  let components := (Text.split '/' path).filter fun c => !c.isEmpty
  match (components.reverse.dropWhile (· = ".")).head? with
  | some ".." => none
  | name => name

/-- What follows the last dot of a name, unless the name begins with it. -/
def extensionOfName? (name : String) : Option String :=
  match (Text.split '.' name).reverse with
  | last :: before :: more =>
    if ".".intercalate (before :: more).reverse = "" then none else some last
  | _ => none

def extension? (path : String) : Option String := (fileName? path).bind extensionOfName?

namespace Format

def name : Format → String
  | .yaml => "yaml"
  | .json => "json"

/-- The extensions of a format, the preferred one first. -/
def extensions : Format → List String
  | .yaml => ["yaml", "yml"]
  | .json => ["json"]

def preferredExtension (f : Format) : String := f.extensions.headD f.name

/-- The format that the extension of a path names, in upper or lower case. -/
def ofPath? (path : String) : Option Format := do
  let extension := Text.lowerAscii (← extension? path)
  [Format.yaml, .json].find? fun f => f.extensions.contains extension

end Format

end EditorBlocks.Document
