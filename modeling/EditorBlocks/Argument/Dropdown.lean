import EditorBlocks.Json.Basic

/-!
# Dropdown options

An option is a pair: a label for the user, which is a text or an image, and the
string that the block stores when it is chosen.
-/

namespace EditorBlocks.Dropdown

structure Image where
  src : String
  width : Float
  height : Float
  alt : Option String
deriving DecidableEq, Repr

inductive Label where
  | text (text : String)
  | image (image : Image)
deriving DecidableEq, Repr

structure Choice where
  label : Label
  value : String
deriving DecidableEq, Repr

namespace Image

/-- An image names its source and its size; only strings may be alternatives. -/
def ofObject? (o : Object) : Option Image := do
  let src ← (← o.get? "src").string?
  let width ← (← o.get? "width").float?
  let height ← (← o.get? "height").float?
  match o.get? "alt" with
  | none => some ⟨src, width, height, none⟩
  | some alt => some ⟨src, width, height, some (← alt.string?)⟩

def toJson (image : Image) : Json :=
  .ofMembers ([("src", .string image.src), ("width", .ofFloat image.width),
    ("height", .ofFloat image.height)] ++
    (image.alt.map fun alt => ("alt", Json.string alt)).toList)

end Image

namespace Label

def ofJson? : Json → Option Label
  | .string s => some (.text s)
  | .object o => (Image.ofObject? o).map .image
  | _ => none

def toJson : Label → Json
  | .text s => .string s
  | .image i => i.toJson

/-- What is read out for the option. -/
def caption : Label → String
  | .text s => s
  | .image i => i.alt.getD i.src

def isImage : Label → Bool
  | .text _ => false
  | .image _ => true

end Label

namespace Choice

def ofJson? : Json → Option Choice
  | .list [label, value] => do some ⟨← Label.ofJson? label, ← value.string?⟩
  | _ => none

def toJson (choice : Choice) : Json := .list [choice.label.toJson, .string choice.value]

end Choice

end EditorBlocks.Dropdown
