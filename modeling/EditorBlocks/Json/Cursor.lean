import EditorBlocks.Json.Basic
import EditorBlocks.Text.Hex

/-!
# Places in a JSON text

A reader goes through a text from left to right.  It stops at the first fault
and tells its cause and its place: the line, counted from one, and the bytes of
that line up to the fault.
-/

namespace EditorBlocks.Json

structure Position where
  line : Nat
  column : Nat
deriving DecidableEq, Repr

namespace Position

/-- The place after all bytes of a character. -/
def past (p : Position) (c : Char) : Position :=
  if c = '\n' then ⟨p.line + 1, 0⟩ else ⟨p.line, p.column + c.utf8Size⟩

/-- The place after the first byte of a character. -/
def into (p : Position) (c : Char) : Position :=
  if c = '\n' then ⟨p.line + 1, 0⟩ else ⟨p.line, p.column + 1⟩

/-- The place after `count` bytes of a text. -/
def pastBytes (p : Position) : Nat → List Char → Position
  | _, [] => p
  | count, c :: rest =>
    if count = 0 then p
    else if count < c.utf8Size then ⟨p.line, p.column + count⟩
    else pastBytes (p.past c) (count - c.utf8Size) rest

end Position

/-- Why a text is not a JSON value. -/
inductive Fault where
  | endInList
  | endInObject
  | endInString
  | endInValue
  | colonExpected
  | listCommaOrEndExpected
  | objectCommaOrEndExpected
  | literalExpected
  | valueExpected
  | invalidEscape
  | invalidNumber
  | numberOutOfRange
  | controlCharacter
  | keyNotString
  | keyNotFinite
  | loneSurrogate
  | brokenSurrogatePair
  | trailingComma
  | trailingCharacters
  | tooDeep
deriving DecidableEq, Repr

def Fault.message : Fault → String
  | .endInList => "EOF while parsing a list"
  | .endInObject => "EOF while parsing an object"
  | .endInString => "EOF while parsing a string"
  | .endInValue => "EOF while parsing a value"
  | .colonExpected => "expected \x60:\x60"
  | .listCommaOrEndExpected => "expected \x60,\x60 or \x60]\x60"
  | .objectCommaOrEndExpected => "expected \x60,\x60 or \x60\x7d\x60"
  | .literalExpected => "expected ident"
  | .valueExpected => "expected value"
  | .invalidEscape => "invalid escape"
  | .invalidNumber => "invalid number"
  | .numberOutOfRange => "number out of range"
  | .controlCharacter => "control character (\\u0000-\\u001F) found while parsing a string"
  | .keyNotString => "key must be a string"
  | .keyNotFinite => "float key must be finite (got NaN or +/-inf)"
  | .loneSurrogate => "lone leading surrogate in hex escape"
  | .brokenSurrogatePair => "unexpected end of hex escape"
  | .trailingComma => "trailing comma"
  | .trailingCharacters => "trailing characters"
  | .tooDeep => "recursion limit exceeded"

/-- A fault and its place.  A fault in a value that was not read from JSON text
has no place. -/
structure SyntaxError where
  fault : Fault
  position : Option Position
deriving DecidableEq, Repr

def SyntaxError.message (e : SyntaxError) : String :=
  match e.position with
  | none => e.fault.message
  | some p => e.fault.message ++ s!" at line {p.line} column {p.column}"

/-- What is left of the text, and the place where it begins. -/
structure Cursor where
  rest : List Char
  position : Position

abbrev Reader := StateT Cursor (Except SyntaxError)

namespace Reader

/-- Stops at the place reached so far. -/
def failHere {α : Type} (fault : Fault) : Reader α := do
  throw ⟨fault, (← get).position⟩

/-- Stops at the next character, which is counted in. -/
def failAhead {α : Type} (fault : Fault) : Reader α := do
  let cursor ← get
  match cursor.rest with
  | [] => throw ⟨fault, cursor.position⟩
  | c :: _ => throw ⟨fault, cursor.position.into c⟩

def peek : Reader (Option Char) := do return (← get).rest.head?

def skip : Reader Unit := modify fun cursor =>
  match cursor.rest with
  | [] => cursor
  | c :: rest => ⟨rest, cursor.position.past c⟩

def next : Reader (Option Char) := do
  let c ← peek
  skip
  return c

/-- The characters up to the first one that `p` rejects. -/
def takeWhile (p : Char → Bool) : Reader (List Char) := modifyGet fun cursor =>
  let taken := cursor.rest.takeWhile p
  (taken, ⟨cursor.rest.dropWhile p, taken.foldl Position.past cursor.position⟩)

def isBlank (c : Char) : Bool := c = ' ' || c = '\n' || c = '\t' || c = '\r'

/-- The next character that is no blank. -/
def peekPastBlanks : Reader (Option Char) := do
  let _ ← takeWhile isBlank
  peek

/-! ## Parts of values that are the same everywhere -/

/-- The rest of a literal. -/
def literal {α : Type} (value : α) : List Char → Reader α
  | [] => return value
  | c :: rest => do
    match ← peek with
    | none => failHere .endInValue
    | some d => if d = c then do skip; literal value rest else failAhead .literalExpected

def digitValue (c : Char) : Nat := c.toNat - '0'.toNat

def bytesLeft (text : List Char) : Nat := text.foldl (fun n c => n + c.utf8Size) 0

/-- The four digits of a `\u` escape.  A fault lies after four bytes. -/
def hexEscape : Reader Nat := do
  let cursor ← get
  match cursor.rest with
  | a :: b :: c :: d :: rest =>
    match Text.hexValue? a, Text.hexValue? b, Text.hexValue? c, Text.hexValue? d with
    | some a', some b', some c', some d' =>
      set (Cursor.mk rest (cursor.position.pastBytes 4 cursor.rest))
      return ((a' * 16 + b') * 16 + c') * 16 + d'
    | _, _, _, _ => throw ⟨.invalidEscape, cursor.position.pastBytes 4 cursor.rest⟩
  | text =>
    let bytes := bytesLeft text
    if bytes < 4 then throw ⟨.endInString, cursor.position.pastBytes bytes text⟩
    else throw ⟨.invalidEscape, cursor.position.pastBytes 4 text⟩

def isPlain (c : Char) : Bool := c ≠ '"' && c ≠ '\\' && 32 ≤ c.toNat

end Reader

end EditorBlocks.Json
