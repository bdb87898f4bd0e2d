import EditorBlocks.Yaml.Lexer

/-!
# The node of a YAML text

The tree that the tokens of a text describe.  A node may carry an anchor, which
an alias elsewhere refers to, and a tag.  Anchors are numbered: a new one gets
the count of the names that were in use before it, and the name then stands for
that number.
-/

namespace EditorBlocks.Yaml

/-- The tag of a node. -/
inductive Tag where
  | named (name : String)
  /-- A tag that is no text; `own` if it begins with an exclamation mark. -/
  | garbled (own : Bool)
deriving DecidableEq, Repr

namespace Tag

def ofOctets (octets : List UInt8) : Tag :=
  match String.fromUTF8? ⟨octets.toArray⟩ with
  | some name => named name
  | none => garbled (octets.head? = some Lex.tagMark)

/-- The tag of a type of the language. -/
def ofType (name : String) : Tag := named ("tag:yaml.org,2002:" ++ name)

/-- A tag of one's own begins with an exclamation mark. -/
def isOwn : Tag → Bool
  | named name => name.startsWith "!"
  | garbled own => own

/-- What a tag of one's own names, behind its mark.  The mark alone names
itself. -/
def ownName? : Tag → Option String
  | named name =>
    match name.toList with
    | ['!'] => some "!"
    | '!' :: rest => some (String.ofList rest)
    | _ => none
  | garbled _ => none

end Tag

/-- What a node carries besides its content. -/
structure Properties where
  anchor : Option Nat
  tag : Option Tag
deriving Repr

namespace Properties

def none : Properties := ⟨.none, .none⟩

def isNone (p : Properties) : Bool := p.anchor.isNone && p.tag.isNone

end Properties

inductive Node where
  | alias (anchor : Nat)
  | scalar (properties : Properties) (text : String) (style : Style)
  | sequence (properties : Properties) (items : List Node)
  | mapping (properties : Properties) (entries : List (Node × Node))
deriving Repr, Inhabited

namespace Node

/-- A node that is left out. -/
def missing : Node := .scalar .none "" .plain

mutual

/-- The anchored nodes with their numbers, in the order of the text. -/
def anchored : Node → List (Nat × Node)
  | .alias _ => []
  | .scalar p text style => (p.anchor.map fun n => (n, .scalar p text style)).toList
  | .sequence p items =>
    (p.anchor.map fun n => (n, .sequence p items)).toList ++ anchoredItems items
  | .mapping p entries =>
    (p.anchor.map fun n => (n, .mapping p entries)).toList ++ anchoredEntries entries

def anchoredItems : List Node → List (Nat × Node)
  | [] => []
  | item :: rest => item.anchored ++ anchoredItems rest

def anchoredEntries : List (Node × Node) → List (Nat × Node)
  | [] => []
  | (key, value) :: rest => key.anchored ++ value.anchored ++ anchoredEntries rest

/-- The number of parts: one for a scalar or an alias, and two, a start and an
end, for a collection besides those of its entries. -/
def size : Node → Nat
  | .alias _ | .scalar .. => 1
  | .sequence _ items => 2 + sizeItems items
  | .mapping _ entries => 2 + sizeEntries entries

def sizeItems : List Node → Nat
  | [] => 0
  | item :: rest => item.size + sizeItems rest

def sizeEntries : List (Node × Node) → Nat
  | [] => 0
  | (key, value) :: rest => key.size + value.size + sizeEntries rest

end

end Node

/-! ## Reading a node from tokens -/

/-- The tokens that are left and what is known by name. -/
structure Builder where
  rest : List Token
  handles : List (String × List UInt8)
  anchors : List (String × Nat)

abbrev Build := StateT Builder Option

namespace Build

def peek : Build (Option Token) := do return (← get).rest.head?

def skip : Build Unit := modify fun s => { s with rest := s.rest.drop 1 }

/-- Whether the next token is this one. -/
def at? (t : Token) : Build Bool := do return (← peek) = some t

/-- Whether the next token is one of these. -/
def atAny (ts : List Token) : Build Bool := do
  match ← peek with
  | none => return false
  | some t => return ts.contains t

def expect (t : Token) : Build Unit := do
  if ← at? t then skip else failure

/-- The number of a new anchor. -/
def declare (name : String) : Build Nat := modifyGet fun s =>
  let number := s.anchors.length
  (number, { s with anchors := (name, number) :: s.anchors.filter (·.1 ≠ name) })

def anchor? : Build (Option Nat) := do
  match ← peek with
  | some (.anchor name) =>
    skip
    return some (← declare name)
  | _ => return none

/-- The handles that every document knows. -/
def commonHandles : List (String × List UInt8) :=
  [("!", [Lex.tagMark]), ("!!", "tag:yaml.org,2002:".toUTF8.toList)]

def expand (handle : String) (suffix : List UInt8) : Build (List UInt8) := do
  if handle.isEmpty then return suffix
  match (← get).handles.lookup handle with
  | some expansion => return expansion ++ suffix
  | none => failure

def tag? : Build (Option Tag) := do
  match ← peek with
  | some (.tag handle suffix) =>
    skip
    return some (.ofOctets (← expand handle suffix))
  | _ => return none

/-- An anchor and a tag, in any order. -/
def properties : Build Properties := do
  match ← anchor? with
  | some n => return ⟨some n, ← tag?⟩
  | none =>
    let tag ← tag?
    return ⟨← anchor?, tag⟩

mutual

/-- A node.  Block collections stand in blocks only, and entries of a sequence
without an indentation of their own only in mappings. -/
def node (inBlock entriesHere : Bool) : Nat → Build Node
  | 0 => failure
  | fuel + 1 => do
    match ← peek with
    | some (.alias name) =>
      match (← get).anchors.lookup name with
      | some n =>
        skip
        return .alias n
      | none => failure
    | _ =>
      let p ← properties
      match ← peek with
      | some .entry =>
        if entriesHere then return .sequence p (← entries fuel)
        else if p.isNone then failure
        else return .scalar p "" .plain
      | some (.scalar text style) =>
        skip
        return .scalar p text style
      | some .listStart =>
        skip
        return .sequence p (← listItems true fuel)
      | some .objectStart =>
        skip
        return .mapping p (← objectEntries true fuel)
      | some .sequenceStart =>
        if inBlock then
          skip
          return .sequence p (← blockItems fuel)
        else if p.isNone then failure
        else return .scalar p "" .plain
      | some .mappingStart =>
        if inBlock then
          skip
          return .mapping p (← blockEntries fuel)
        else if p.isNone then failure
        else return .scalar p "" .plain
      | _ => if p.isNone then failure else return .scalar p "" .plain

/-- The entries of an indented block sequence. -/
def blockItems : Nat → Build (List Node)
  | 0 => failure
  | fuel + 1 => do
    if ← at? .entry then
      skip
      let item ← if ← atAny [.entry, .blockEnd] then pure .missing else node true false fuel
      return item :: (← blockItems fuel)
    expect .blockEnd
    return []

/-- The entries of a sequence that stands at the indentation of its mapping. -/
def entries : Nat → Build (List Node)
  | 0 => failure
  | fuel + 1 => do
    if ← at? .entry then
      skip
      let item ← if ← atAny [.entry, .key, .value, .blockEnd] then pure .missing
        else node true false fuel
      return item :: (← entries fuel)
    return []

/-- A key or a value of a block mapping, unless it is left out. -/
def blockPart : Nat → Build Node
  | 0 => failure
  | fuel + 1 => do
    if ← atAny [.key, .value, .blockEnd] then return .missing
    node true true fuel

def blockEntries : Nat → Build (List (Node × Node))
  | 0 => failure
  | fuel + 1 => do
    if ← at? .key then
      skip
      let key ← blockPart fuel
      let value ← if ← at? .value then do skip; blockPart fuel else pure .missing
      return (key, value) :: (← blockEntries fuel)
    expect .blockEnd
    return []

/-- The items of a list in brackets; `first` when no item came before. -/
def listItems (first : Bool) : Nat → Build (List Node)
  | 0 => failure
  | fuel + 1 => do
    if ← at? .listEnd then
      skip
      return []
    if !first then expect .comma
    if ← at? .listEnd then
      skip
      return []
    let item ← if ← at? .key then do skip; listPair fuel else node false false fuel
    return item :: (← listItems false fuel)

/-- A list item that is a mapping of one entry, after its key indicator.  A key
may not be left out. -/
def listPair : Nat → Build Node
  | 0 => failure
  | fuel + 1 => do
    if ← atAny [.value, .comma, .listEnd] then
      skip
      return .mapping .none [(.missing, ← listPairValue fuel)]
    let key ← node false false fuel
    return .mapping .none [(key, ← listPairValue fuel)]

def listPairValue : Nat → Build Node
  | 0 => failure
  | fuel + 1 => do
    if ← at? .value then
      skip
      if ← atAny [.comma, .listEnd] then return .missing
      node false false fuel
    else return .missing

/-- The entries of an object in braces; `first` when no entry came before. -/
def objectEntries (first : Bool) : Nat → Build (List (Node × Node))
  | 0 => failure
  | fuel + 1 => do
    if ← at? .objectEnd then
      skip
      return []
    if !first then expect .comma
    if ← at? .objectEnd then
      skip
      return []
    let entry ← if ← at? .key then do skip; objectPair fuel
      else do pure (← node false false fuel, .missing)
    return entry :: (← objectEntries false fuel)

def objectPair : Nat → Build (Node × Node)
  | 0 => failure
  | fuel + 1 => do
    let key ← if ← atAny [.value, .comma, .objectEnd] then pure .missing
      else node false false fuel
    if ← at? .value then
      skip
      if ← atAny [.comma, .objectEnd] then return (key, .missing)
      return (key, ← node false false fuel)
    else return (key, .missing)

end

/-! ## Documents -/

/-- The directives before a document: at most one version, which is 1.1 or 1.2,
and handles that differ. -/
def directives (versioned : Bool) : Nat → Build Bool
  | 0 => failure
  | fuel + 1 => do
    match ← peek with
    | some (.version major minor) =>
      if versioned || major ≠ 1 || (minor ≠ 1 && minor ≠ 2) then failure
      skip
      let _ ← directives true fuel
      return true
    | some (.tagHandle handle expansion) =>
      if ((← get).handles.lookup handle).isSome then failure
      modify fun s => { s with handles := s.handles ++ [(handle, expansion)] }
      skip
      let _ ← directives versioned fuel
      return true
    | _ => return false

/-- The one document of a text; `none` for a text without any. -/
def document (fuel : Nat) : Build (Option Node) := do
  if (← peek).isNone then return none
  let directed ← directives false fuel
  modify fun s => { s with handles := s.handles ++ commonHandles }
  let root ←
    if ← at? .documentStart then do
      skip
      match ← peek with
      | none => pure Node.missing
      | some t =>
        if [Token.documentStart, .documentEnd].contains t then pure Node.missing
        else
          match t with
          | .version .. | .tagHandle .. => pure Node.missing
          | _ => node true false fuel
    else if directed then failure
    else node true false fuel
  modify fun s => { s with rest := s.rest.dropWhile (· = .documentEnd) }
  if (← peek).isSome then failure
  return some root

end Build

/-- The node that the tokens of one document describe. -/
def Node.ofTokens? (tokens : List Token) : Option (Option Node) :=
  let fuel := 2 * tokens.length + 2
  ((Build.document fuel).run ⟨tokens, [], []⟩).map Prod.fst

end EditorBlocks.Yaml
