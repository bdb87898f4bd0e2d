import EditorBlocks.Argument.Basic
import EditorBlocks.Template

/-!
# Block definitions

One kind of block of a visual editor: its name, its connections, up to ten
slots of messages with arguments, and its settings.  A definition is put together
from a document without errors, and written back as a document of the recognised
keys.
-/

namespace EditorBlocks

/-- Where the dummy input at the end of a slot puts its fields. -/
inductive Align where
  | left
  | center
  | right
deriving DecidableEq, Repr

namespace Align

def all : List Align := [.left, .center, .right]

def name : Align → String
  | .left => "LEFT"
  | .center => "CENTER"
  | .right => "RIGHT"

def ofName? (name : String) : Option Align := all.find? (·.name = name)

@[simp]
theorem ofName?_name (align : Align) : ofName? align.name = some align := by
  cases align <;> decide

end Align

inductive Colour where
  /-- An angle on the colour wheel, in degrees. -/
  | hue (degrees : Float)
  /-- A colour code or the name of a message that holds one. -/
  | reference (text : String)
deriving DecidableEq, Repr

namespace Colour

def ofJson? : Json → Option Colour
  | .number n => some (.hue n.toFloat)
  | .string text => some (.reference text)
  | _ => none

def toJson : Colour → Json
  | .hue degrees => .ofFloat degrees
  | .reference text => .string text

end Colour

/-- The two families of blocks. -/
inductive Variant where
  | value
  | statement
deriving DecidableEq, Repr

/-- A value block plugs into inputs; a statement block is stacked, and either of
its connections may be missing. -/
inductive Connections where
  | value (output : ConnectionCheck)
  | statement (previous next : Option ConnectionCheck)
deriving DecidableEq, Repr

namespace Connections

def isValue : Connections → Bool
  | .value _ => true
  | .statement .. => false

def name (c : Connections) : String := if c.isValue then "value" else "statement"

def output? : Connections → Option ConnectionCheck
  | .value output => some output
  | .statement .. => none

def previous? : Connections → Option ConnectionCheck
  | .value _ => none
  | .statement previous _ => previous

def next? : Connections → Option ConnectionCheck
  | .value _ => none
  | .statement _ next => next

def members : Connections → Object
  | .value output => [("output", output.toJson)]
  | .statement previous next =>
    (previous.map fun c => ("previousStatement", c.toJson)).toList ++
      (next.map fun c => ("nextStatement", c.toJson)).toList

/-- The connections that the object gives to a block of a variant.  A value block
cannot do without an output. -/
def ofObject? (variant : Variant) (o : Object) : Option Connections :=
  let check? := fun key => (o.get? key).bind ConnectionCheck.ofJson?
  match variant with
  | .value => (check? "output").map .value
  | .statement => some (.statement (check? "previousStatement") (check? "nextStatement"))

end Connections

/-- How many slots a block may have. -/
def slotCount : Nat := 10

/-- The keys of a slot. -/
def messageKey (i : Fin slotCount) : String := "message" ++ toString i.val
def argumentsKey (i : Fin slotCount) : String := "args" ++ toString i.val
def alignKey (i : Fin slotCount) : String := "lastDummyAlign" ++ toString i.val

/-- A message, its arguments, and how its last row is aligned. -/
structure Slot where
  index : Fin slotCount
  message : String
  arguments : List Argument
  align : Option Align
deriving DecidableEq, Repr

namespace Slot

def tokens (slot : Slot) : List Template.Token := Template.tokenize slot.message

/-- The argument a placeholder stands for; they are counted from one. -/
def argument? (slot : Slot) (number : Nat) : Option Argument :=
  if number = 0 then none else slot.arguments[number - 1]?

/-- The arguments in the order in which the message names them. -/
def inMessageOrder (slot : Slot) : List Argument :=
  (Template.placeholders slot.tokens).filterMap slot.argument?

def impliesDummy (slot : Slot) : Bool :=
  Template.impliesDummy slot.tokens fun n => (slot.argument? n).map Argument.isInput

def members (slot : Slot) : Object :=
  [(messageKey slot.index, .string slot.message)] ++
    (if slot.arguments.isEmpty then []
      else [(argumentsKey slot.index, .list (slot.arguments.map Argument.toJson))]) ++
    (slot.align.map fun a => (alignKey slot.index, Json.string a.name)).toList

end Slot

structure Definition where
  type : String
  connections : Connections
  slots : List Slot
  inputsInline : Option Bool
  helpUrl : Option String
  style : Option String
  colour : Option Colour
  tooltip : Option String
  extensions : Option (List String)
  mutator : Option String
deriving DecidableEq, Repr

namespace Definition

def slot? (d : Definition) (index : Nat) : Option Slot := d.slots.find? (·.index.val = index)

/-- The arguments of all slots. -/
def arguments (d : Definition) : List Argument := d.slots.flatMap Slot.arguments

def argument? (d : Definition) (name : String) : Option Argument :=
  d.arguments.find? (·.name = name)

def toJson (d : Definition) : Json :=
  let text := fun key (s : Option String) => (s.map fun s => (key, Json.string s)).toList
  .ofMembers ([("type", .string d.type)] ++ d.slots.flatMap Slot.members ++
    (d.inputsInline.map fun b => ("inputsInline", Json.bool b)).toList ++
    text "helpUrl" d.helpUrl ++ text "style" d.style ++ text "tooltip" d.tooltip ++
    text "mutator" d.mutator ++ (d.colour.map fun c => ("colour", c.toJson)).toList ++
    (d.extensions.map fun names => ("extensions", Json.ofStrings names)).toList ++
    d.connections.members)

/-- The definition with these slots whose other parts are read from the object. -/
def ofObject? (variant : Variant) (o : Object) (slots : List Slot) : Option Definition := do
  let type ← (← o.get? "type").string?
  let connections ← Connections.ofObject? variant o
  let text := fun key => (o.get? key).bind Json.string?
  some {
    type, connections, slots
    inputsInline := (o.get? "inputsInline").bind Json.bool?
    helpUrl := text "helpUrl"
    style := text "style"
    colour := (o.get? "colour").bind Colour.ofJson?
    tooltip := text "tooltip"
    extensions := (o.get? "extensions").bind Json.strings?
    mutator := text "mutator" }

end Definition

end EditorBlocks
