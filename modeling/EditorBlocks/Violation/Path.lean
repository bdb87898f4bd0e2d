/-!
# Paths into a document

A path leads from the root of a document to one of its values, through keys of
objects and positions in lists.  It is written as `$.args0[1].options`.
-/

namespace EditorBlocks

inductive Segment where
  | key (name : String)
  | index (position : Nat)
deriving DecidableEq, Repr

/-- The segments from the root on. -/
abbrev Path := List Segment

namespace Segment

def text : Segment → String
  | .key name => "." ++ name
  | .index position => "[" ++ toString position ++ "]"

end Segment

namespace Path

def text (path : Path) : String := "$" ++ String.join (path.map Segment.text)

end Path

end EditorBlocks
