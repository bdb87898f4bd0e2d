import EditorBlocks.Decimal.Layout
import EditorBlocks.Decimal.Nearest
import EditorBlocks.Json.Reader
import EditorBlocks.Yaml.Node

/-!
# The value of a YAML text

What plain scalars mean, what aliases stand for, and how the value is written
as JSON.
-/

namespace EditorBlocks.Yaml

inductive Value where
  | null
  | bool (b : Bool)
  | int (n : Int)
  | float (x : Float)
  | string (s : String)
  | list (items : List Value)
  | mapping (entries : List (Value × Value))
  /-- A value with a tag that has no meaning of its own, by its name. -/
  | tagged (tag : String) (value : Value)
deriving Repr, Inhabited

/-! ## Plain scalars -/

def digitsOfBase (base : Nat) (text : List Char) : Option Nat :=
  if text.isEmpty then none
  else text.foldlM (fun n c => do
    let d ← Text.hexValue? c
    if d < base then some (base * n + d) else none) 0

/-- A zero followed by digits is a text. -/
def isPaddedNumber (text : List Char) : Bool :=
  let digits := match text with
    | '-' :: rest => rest
    | '+' :: rest => rest
    | _ => text
  1 < digits.length && digits.head? = some '0' && digits.all Char.isDigit

/-- A magnitude with a mark for its base, or in decimal. -/
def magnitude? (text : List Char) : Option Nat :=
  match text with
  | '0' :: 'x' :: rest => digitsOfBase 16 rest
  | '0' :: 'o' :: rest => digitsOfBase 8 rest
  | '0' :: 'b' :: rest => digitsOfBase 2 rest
  | _ => if isPaddedNumber text then none else digitsOfBase 10 text

/-- The integer that a scalar is written as. -/
def integer? (text : List Char) : Option Int :=
  match text with
  | '+' :: rest => (magnitude? rest).map Int.ofNat
  | '-' :: rest => (magnitude? rest).map fun n => -(n : Int)
  | _ => (magnitude? text).map Int.ofNat

/-- The float that a scalar is written as.  Digits beyond the largest float do
not make one. -/
def float? (text : String) : Option Float :=
  if [".inf", ".Inf", ".INF", "+.inf", "+.Inf", "+.INF"].contains text then some (1.0 / 0.0)
  else if ["-.inf", "-.Inf", "-.INF"].contains text then some (-1.0 / 0.0)
  else if [".nan", ".NaN", ".NAN"].contains text then some (0.0 / 0.0)
  else
    match text.toList with
    | '+' :: '+' :: _ | '+' :: '-' :: _ => none
    | chars =>
      match Decimal.readFloat chars with
      | some x => if x.isFinite then some x else none
      | none => none

def null? (text : String) : Bool := ["null", "Null", "NULL", "~"].contains text

def bool? (text : String) : Option Bool :=
  if ["true", "True", "TRUE"].contains text then some true
  else if ["false", "False", "FALSE"].contains text then some false
  else none

/-- Integers of 64 bits are values; those of up to 128 bits are refused, and
larger ones are no integers. -/
inductive IntegerSize where
  | fits
  | refused
  | larger
deriving DecidableEq

def integerSize (n : Int) : IntegerSize :=
  if -0x8000000000000000 ≤ n ∧ n < 0x10000000000000000 then .fits
  else if -0x80000000000000000000000000000000 ≤ n ∧ n < 0x100000000000000000000000000000000 then
    .refused
  else .larger

/-- The value of an integer scalar; `none` if the text is none. -/
def integerValue? (text : String) : Option (Option Value) := do
  let n ← integer? text.toList
  match integerSize n with
  | .fits => some (some (.int n))
  | .refused => some none
  | .larger => none

/-- What a plain scalar means. -/
def plainValue (text : String) : Option Value :=
  if text.isEmpty || null? text then some .null
  else
    match bool? text with
    | some b => some (.bool b)
    | none =>
      match integerValue? text with
      | some result => result
      | none =>
        if isPaddedNumber text.toList then some (.string text)
        else
          match float? text with
          | some x => some (.float x)
          | none => some (.string text)

/-- The value of a scalar.  A type tag demands its type, quoted or not. -/
def scalarValue (tag : Option Tag) (text : String) (style : Style) : Option Value :=
  if tag = some (.ofType "bool") then (bool? text).map .bool
  else if tag = some (.ofType "int") then (integerValue? text).join
  else if tag = some (.ofType "float") then (float? text).map .float
  else if tag = some (.ofType "null") then (if null? text then some .null else none)
  else if style.isPlain && tag.all Tag.isOwn then plainValue text
  else some (.string text)

/-! ## Nodes -/

namespace Value

mutual

/-- Whether two keys are the same; the order of entries does not matter. -/
def same : Value → Value → Bool
  | .null, .null => true
  | .bool a, .bool b => a = b
  | .int a, .int b => a = b
  | .float a, .float b => a == b || (a.isNaN && b.isNaN)
  | .string a, .string b => a = b
  | .list a, .list b => sameItems a b
  | .mapping a, .mapping b => a.length = b.length && sameEntries a b
  | .tagged s a, .tagged t b => s = t && same a b
  | _, _ => false

def sameItems : List Value → List Value → Bool
  | [], [] => true
  | a :: as, b :: bs => same a b && sameItems as bs
  | _, _ => false

def sameEntries : List (Value × Value) → List (Value × Value) → Bool
  | [], _ => true
  | (k, v) :: rest, bs =>
    (bs.any fun b => same k b.1 && same v b.2) && sameEntries rest bs

end

/-- Entries with keys that differ. -/
def distinctKeys : List (Value × Value) → Bool
  | [] => true
  | (key, _) :: rest => rest.all (fun e => !same key e.1) && distinctKeys rest

end Value

/-- What the aliases of a text refer to. -/
structure Aliases where
  /-- Of several nodes with one number the last counts. -/
  targets : List (Nat × Node)
  /-- How many aliases may be followed. -/
  limit : Nat

/-- Reading a value counts the aliases that it follows. -/
abbrev Resolve := StateT Nat Option

/-- How deep collections may be nested. -/
def depthLimit : Nat := 128

def Aliases.ofNode (root : Node) : Aliases := ⟨root.anchored.reverse, 100 * root.size⟩

/-- The node that an alias stands for. -/
def follow (aliases : Aliases) : Node → Resolve Node
  | .alias n => do
    modify (· + 1)
    if aliases.limit < (← get) then failure
    match aliases.targets.lookup n with
    | some node => return node
    | none => failure
  | node => return node

/-- A second mark does not belong to the name of a tag, unless it is all of it. -/
def bareName (name : String) : String :=
  match name.toList with
  | '!' :: c :: rest => String.ofList (c :: rest)
  | _ => name

def withTag (tag : Option Tag) (value : Value) : Value :=
  match tag.bind Tag.ownName? with
  | none => value
  | some name => .tagged (bareName name) value

/-- The value of a node whose collections may be nested `depth` deep. -/
def resolve (aliases : Aliases) (depth : Nat) (node : Node) : Resolve Value := do
  match depth, ← follow aliases node with
  | _, .scalar p text style =>
    match scalarValue p.tag text style with
    | some value => return withTag p.tag value
    | none => failure
  | depth + 1, .sequence p items =>
    return withTag p.tag (.list (← items.mapM (resolve aliases depth)))
  | depth + 1, .mapping p entries =>
    let entries ← entries.mapM fun (key, value) => do
      return (← resolve aliases depth key, ← resolve aliases depth value)
    if !Value.distinctKeys entries then failure
    return withTag p.tag (.mapping entries)
  | _, _ => failure

/-- The value of a text; a text without a document is null. -/
def Value.read (text : String) : Option Value := do
  match ← Node.ofTokens? (← Token.scan text) with
  | none => some .null
  | some root =>
    ((resolve (.ofNode root) depthLimit root).run 0).map Prod.fst

/-! ## Writing as JSON -/

namespace Value

/-- The key of an object that stands for a scalar key. -/
def keyText : Value → Except Json.Fault String
  | .bool b => .ok (if b then "true" else "false")
  | .int n => .ok (toString n)
  | .float x => if x.isFinite then .ok (Decimal.Layout.json.float x) else .error .keyNotFinite
  | .string s => .ok s
  | _ => .error .keyNotString

mutual

def toJson : Value → Except Json.Fault Json
  | .null => .ok .null
  | .bool b => .ok (.bool b)
  | .int n => .ok (.number (.int n))
  | .float x => .ok (if x.isFinite then .ofFloat x else .null)
  | .string s => .ok (.string s)
  | .list items => do return .list (← itemsJson items)
  | .mapping entries => do return .ofMembers (← entriesJson entries)
  | .tagged tag value => do return .object [("!" ++ tag, ← toJson value)]

def itemsJson : List Value → Except Json.Fault (List Json)
  | [] => .ok []
  | item :: rest => do return (← toJson item) :: (← itemsJson rest)

def entriesJson : List (Value × Value) → Except Json.Fault (List (String × Json))
  | [] => .ok []
  | (key, value) :: rest => do
    let key ← keyText key
    return (key, ← toJson value) :: (← entriesJson rest)

end

end Value

end EditorBlocks.Yaml
