import EditorBlocks.Decimal.Scale
import EditorBlocks.Json.PassOver

/-!
# Reading JSON text

A reader of exactly one value.  Lists and objects may be nested 127 deep.  An
outline tells which members of objects are wanted; all others are passed over.

The members of an object are read as they stand in the text; `Json.read` puts
them in order afterwards.
-/

namespace EditorBlocks.Json

/-- What is wanted of a value: all of it, or certain members of an object, each
with an outline of its own.  The items of a list are taken for the members in
order, and all of an item that has no member to it. -/
inductive Outline where
  | whole
  | members (wanted : List (String × Outline))

namespace Outline

/-- The outline of the member of a name, if it is wanted. -/
def member? : Outline → String → Option Outline
  | whole, _ => some whole
  | members wanted, name => wanted.lookup name

def item : Outline → Nat → Outline
  | whole, _ => whole
  | members wanted, position => (wanted[position]?.map Prod.snd).getD whole

end Outline

namespace Reader

/-! ## Numbers -/

/-- The largest significand and the largest exponent that are kept. -/
def significandLimit : Nat := 0xffffffffffffffff

def exponentLimit : Nat := 0x7fffffff

/-- Appends digits to `n` as long as it stays within the limit: the number and
how many digits were left over. -/
def accumulate (limit n : Nat) : List Char → Nat × Nat
  | [] => (n, 0)
  | d :: rest =>
    let m := 10 * n + digitValue d
    if m ≤ limit then accumulate limit m rest else (n, rest.length + 1)

/-- The digits of an exponent, after its sign.  One that is too large stops at
the digit that makes it so, unless the number is zero or tiny. -/
def exponent (significand : Nat) (negative : Bool) : Reader Nat := do
  match ← peek with
  | none => failHere .endInValue
  | some c =>
    if !c.isDigit then failAhead .invalidNumber
    let before ← get
    let digits ← takeWhile Char.isDigit
    let (n, excess) := accumulate exponentLimit 0 digits
    if excess = 0 then return n
    if significand = 0 || negative then return n
    let read := digits.length - excess + 1
    throw ⟨.numberOutOfRange, before.position.pastBytes read digits⟩

/-- A fraction or an exponent makes a float.  Digits that do not fit the
significand count as zeros. -/
def float (negative : Bool) (significand : Nat) (power : Int) : Reader Number := do
  match Decimal.scale significand power with
  | none => failHere .numberOutOfRange
  | some x => return .float (if negative then -x else x)

def withExponent (negative : Bool) (significand : Nat) (power : Int) : Reader Number := do
  match ← peek with
  | some 'e' | some 'E' =>
    skip
    let down ← match ← peek with
      | some '+' => skip; pure false
      | some '-' => skip; pure true
      | _ => pure false
    let n ← exponent significand down
    float negative significand (if down then power - n else power + n)
  | _ => float negative significand power

def withFraction (negative : Bool) (significand : Nat) (power : Int) : Reader Number := do
  skip
  let digits ← takeWhile Char.isDigit
  match digits, ← peek with
  | [], none => failAhead .endInValue
  | [], some _ => failAhead .invalidNumber
  | _, _ =>
    let (n, excess) := accumulate significandLimit significand digits
    withExponent negative n (power - (digits.length - excess : Nat))

/-- An integer of 64 bits stays one; a larger one, and minus zero, is a float. -/
def whole (negative : Bool) (significand : Nat) : Number :=
  if !negative then .int significand
  else if significand = 0 ∨ 0x8000000000000000 < significand then
    .float (-Float.ofNat significand)
  else .int (-(significand : Int))

def number (negative : Bool) : Reader Number := do
  match ← peek with
  | none => failHere .endInValue
  | some c =>
    if !c.isDigit then failAhead .invalidNumber
    let digits ← if c = '0' then do skip; pure ['0'] else takeWhile Char.isDigit
    let (significand, excess) := accumulate significandLimit 0 digits
    match ← peek with
    | some '.' => withFraction negative significand excess
    | some 'e' | some 'E' => withExponent negative significand excess
    | some d =>
      if c = '0' && d.isDigit then failAhead .invalidNumber
      else if excess = 0 then return whole negative significand
      else float negative significand excess
    | none =>
      if excess = 0 then return whole negative significand
      else float negative significand excess

/-! ## Strings -/

/-- Reads on after a leading surrogate: the escape of a trailing one must follow. -/
def expectInPair (wanted : Char) : Reader Unit := do
  match ← peek with
  | none => failHere .endInString
  | some c => if c = wanted then skip else failAhead .brokenSurrogatePair

def unicodeEscape : Reader Char := do
  let n ← hexEscape
  if 0xdc00 ≤ n && n ≤ 0xdfff then failHere .loneSurrogate
  if n < 0xd800 || 0xdbff < n then return Char.ofNat n
  expectInPair '\\'
  expectInPair 'u'
  let m ← hexEscape
  if m < 0xdc00 || 0xdfff < m then failHere .loneSurrogate
  return Char.ofNat ((n - 0xd800) * 1024 + (m - 0xdc00) + 0x10000)

def escape : Reader Char := do
  match ← peek with
  | none => failHere .endInString
  | some 'b' => skip; return '\x08'
  | some 'f' => skip; return '\x0c'
  | some 'n' => skip; return '\n'
  | some 'r' => skip; return '\r'
  | some 't' => skip; return '\t'
  | some 'u' => skip; unicodeEscape
  | some c =>
    if c = '"' || c = '\\' || c = '/' then do skip; return c else failAhead .invalidEscape

/-- The rest of a string, after its opening quote; `read` is what came before. -/
def stringEnd : Nat → List Char → Reader String
  | 0, _ => failHere .endInString
  | fuel + 1, read => do
    let read := read ++ (← takeWhile isPlain)
    match ← next with
    | none => failHere .endInString
    | some '"' => return String.ofList read
    | some '\\' => stringEnd fuel (read ++ [← escape])
    | some _ => failHere .controlCharacter

/-! ## Values

Each call takes at least one character, so the length of the text bounds the
number of calls. -/

/-- How deep lists and objects may be nested. -/
def depthLimit : Nat := 127

mutual

def value (fuel depth : Nat) (outline : Outline) : Reader Json :=
  match fuel with
  | 0 => failHere .endInValue
  | fuel + 1 => do
    match ← peekPastBlanks with
    | none => failAhead .endInValue
    | some 'n' => skip; literal .null ['u', 'l', 'l']
    | some 't' => skip; literal (.bool true) ['r', 'u', 'e']
    | some 'f' => skip; literal (.bool false) ['a', 'l', 's', 'e']
    | some '-' => skip; return .number (← number true)
    | some '"' => skip; return .string (← stringEnd fuel [])
    | some '[' =>
      match depth with
      | 0 => failAhead .tooDeep
      | depth + 1 => skip; return .list (← items fuel depth outline 0)
    | some '\x7b' =>
      match depth with
      | 0 => failAhead .tooDeep
      | depth + 1 => skip; return .object (← members fuel depth outline true)
    | some c => if c.isDigit then return .number (← number false) else failAhead .valueExpected

/-- The items from a position on, up to the closing bracket. -/
def items (fuel depth : Nat) (outline : Outline) (position : Nat) : Reader (List Json) :=
  match fuel with
  | 0 => failHere .endInList
  | fuel + 1 => do
    match ← peekPastBlanks with
    | none => failAhead .endInList
    | some ']' => skip; return []
    | some c =>
      if position ≠ 0 then
        if c ≠ ',' then failAhead .listCommaOrEndExpected
        skip
        match ← peekPastBlanks with
        | none => failAhead .endInValue
        | some ']' => failAhead .trailingComma
        | some _ => pure ()
      let item ← value fuel depth (outline.item position)
      return item :: (← items fuel depth outline (position + 1))

/-- The wanted members up to the closing brace; `first` when none came before. -/
def members (fuel depth : Nat) (outline : Outline) (first : Bool) :
    Reader (List (String × Json)) :=
  match fuel with
  | 0 => failHere .endInObject
  | fuel + 1 => do
    match ← peekPastBlanks with
    | none => failAhead .endInObject
    | some '\x7d' => skip; return []
    | some c =>
      if first then
        if c ≠ '"' then failAhead .keyNotString
      else
        if c ≠ ',' then failAhead .objectCommaOrEndExpected
        skip
        match ← peekPastBlanks with
        | none => failAhead .endInValue
        | some '"' => pure ()
        | some '\x7d' => failAhead .trailingComma
        | some _ => failAhead .keyNotString
      skip
      let key ← stringEnd fuel []
      match ← peekPastBlanks with
      | none => failAhead .endInObject
      | some ':' => skip
      | some _ => failAhead .colonExpected
      match outline.member? key with
      | some outline' =>
        let v ← value fuel depth outline'
        return (key, v) :: (← members fuel depth outline false)
      | none =>
        passValue fuel
        members fuel depth outline false

end

/-- One value with nothing but blanks around it. -/
def document (fuel : Nat) (outline : Outline) : Reader Json := do
  let v ← value fuel depthLimit outline
  match ← peekPastBlanks with
  | none => return v
  | some _ => failAhead .trailingCharacters

end Reader

/-- Reads what is wanted of a JSON text.  Objects keep their members in the order
of the text, and repeated ones too. -/
def readWanted (outline : Outline) (text : String) : Except SyntaxError Json :=
  let chars := text.toList
  (Reader.document (2 * chars.length + 2) outline).run' ⟨chars, ⟨1, 0⟩⟩

mutual

/-- The value with the members of all its objects in order of their keys. -/
def ordered : Json → Json
  | .list items => .list (orderedItems items)
  | .object members => .ofMembers (orderedMembers members)
  | .null => .null
  | .bool b => .bool b
  | .number n => .number n
  | .string s => .string s

def orderedItems : List Json → List Json
  | [] => []
  | item :: rest => ordered item :: orderedItems rest

def orderedMembers : List (String × Json) → List (String × Json)
  | [] => []
  | (key, value) :: rest => (key, ordered value) :: orderedMembers rest

end

/-- Reads a JSON text. -/
def read (text : String) : Except SyntaxError Json := (readWanted .whole text).map ordered

end EditorBlocks.Json
