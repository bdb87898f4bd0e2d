import EditorBlocks.Text.Hex
import EditorBlocks.Yaml.Character
import EditorBlocks.Yaml.Token

/-!
# The tokens of a YAML text

The text is read once from left to right.  Indentation opens and closes block
collections.  A colon makes a key of what was read before it on its line, so
every place where a key may begin is remembered, and the key token is put there
afterwards.  A text that is not YAML has no tokens.
-/

namespace EditorBlocks.Yaml

/-- A place where a key may begin. -/
structure KeyPlace where
  /-- How many tokens come before it. -/
  token : Nat
  line : Nat
  column : Nat
  /-- How many bytes come before it. -/
  offset : Nat
  /-- A block mapping must go on here with a key. -/
  required : Bool
deriving Repr

structure Lexer where
  rest : List Char
  line : Nat
  column : Nat
  /-- How many bytes have been read. -/
  offset : Nat
  tokens : Array Token
  /-- Columns of the open block collections, the innermost first. -/
  indents : List Nat
  /-- The number of open flow collections. -/
  flow : Nat
  keyAllowed : Bool
  /-- The possible key of each open flow collection, the innermost first, and of
  the blocks around them. -/
  keys : List (Option KeyPlace)

abbrev Lex := StateT Lexer Option

namespace Lexer

def ofText (text : String) : Lexer := ⟨text.toList, 0, 0, 0, #[], [], 0, true, [none]⟩

/-- The column of the innermost block collection, or `-1` outside of all. -/
def indent (s : Lexer) : Int :=
  match s.indents with
  | [] => -1
  | column :: _ => column

/-- The lexer behind so many characters of one line. -/
def past (s : Lexer) (count : Nat) : Lexer :=
  { s with
    rest := s.rest.drop count
    column := s.column + count
    offset := s.offset + byteCount (s.rest.take count) }

/-- Three dashes or dots at the start of a line, and nothing behind them. -/
def atMarker (s : Lexer) (c : Char) : Bool :=
  s.column = 0 && s.rest.take 3 = [c, c, c] && endsWord (s.rest.drop 3)

def atAnyMarker (s : Lexer) : Bool := s.atMarker '-' || s.atMarker '.'

end Lexer

namespace Lex

/-! ## Characters -/

def peek : Lex (Option Char) := do return (← get).rest.head?

def skip (count : Nat) : Lex Unit := modify fun s => s.past count

/-- Takes characters of a class without line breaks. -/
def takeWhile (p : Char → Bool) : Lex (List Char) := modifyGet fun s =>
  let taken := s.rest.takeWhile p
  (taken, s.past taken.length)

/-- Takes a line break, if there is one.  All breaks read as a newline but the
two separators, which stay as they are. -/
def lineBreak : Lex (List Char) := modifyGet fun s =>
  let after := fun rest count =>
    { s with rest, line := s.line + 1, column := 0, offset := s.offset + count }
  match s.rest with
  | [] => ([], s)
  | '\r' :: '\n' :: rest => (['\n'], after rest 2)
  | c :: rest =>
    if c = lineSeparator || c = paragraphSeparator then ([c], after rest c.utf8Size)
    else if isBreak c then (['\n'], after rest c.utf8Size)
    else ([], s)

def comment : Lex Unit := do
  if (← peek) = some '#' then
    let _ ← takeWhile fun c => !isBreak c

/-- The rest of a line that may hold nothing but a comment. -/
def endOfLine : Lex Unit := do
  let _ ← takeWhile isBlank
  comment
  match ← peek with
  | none => pure ()
  | some c =>
    if isBreak c then
      let _ ← lineBreak
    else failure

/-! ## Tokens and indentation -/

def emit (t : Token) : Lex Unit := modify fun s => { s with tokens := s.tokens.push t }

/-- Opens a block collection at a column, unless one is open there already.  The
token goes before token `place`, or to the end. -/
def openBlock (column : Nat) (place : Option Nat) (t : Token) : Lex Unit := modify fun s =>
  if s.flow = 0 ∧ s.indent < (column : Int) then
    { s with
      indents := column :: s.indents
      tokens := s.tokens.insertIdxIfInBounds (place.getD s.tokens.size) t }
  else s

/-- Closes the block collections that are indented further than a column. -/
def closeBlocks (column : Int) : Lex Unit := modify fun s =>
  if s.flow = 0 then
    let deeper := fun indent : Nat => decide (column < (indent : Int))
    let closed := (s.indents.takeWhile deeper).length
    { s with
      indents := s.indents.drop closed
      tokens := s.tokens ++ (List.replicate closed Token.blockEnd).toArray }
  else s

def allowKey (allowed : Bool) : Lex Unit := modify fun s => { s with keyAllowed := allowed }

/-- Gives up the innermost possible key.  One that is required cannot be. -/
def dropKey : Lex Unit := do
  match (← get).keys with
  | some place :: rest =>
    if place.required then failure
    modify fun s => { s with keys := none :: rest }
  | _ => pure ()

/-- Notes that a key may begin here. -/
def saveKey : Lex Unit := do
  if (← get).keyAllowed then
    dropKey
    modify fun s =>
      let required := decide (s.flow = 0 ∧ s.indent = (s.column : Int))
      let place := ⟨s.tokens.size, s.line, s.column, s.offset, required⟩
      { s with keys := some place :: s.keys.drop 1 }

/-- A key stands on one line and takes at most so many bytes. -/
def keyLimit : Nat := 1024

def dropStaleKeys : Lex Unit := do
  let s ← get
  let keys ← s.keys.mapM fun
    | none => pure none
    | some place =>
      if place.line < s.line ∨ place.offset + keyLimit < s.offset then
        if place.required then failure else pure none
      else pure (some place)
  set { s with keys }

/-! ## Blanks between tokens -/

/-- Skips blanks, comments and line breaks.  A tab may not indent.  A byte order
mark at the start of the text counts as a blank. -/
def blanks : Nat → Lex Unit
  | 0 => pure ()
  | fuel + 1 => do
    let s ← get
    if s.offset = 0 && s.rest.head? = some byteOrderMark then skip 1
    let tabs := s.flow ≠ 0 || !s.keyAllowed
    let _ ← takeWhile fun c => c = ' ' || (tabs && c = '\t')
    comment
    match ← peek with
    | none => pure ()
    | some c =>
      if isBreak c then
        let _ ← lineBreak
        if s.flow = 0 then allowKey true
        blanks fuel

/-! ## Directives -/

def versionNumber : Lex Nat := do
  let digits ← takeWhile Char.isDigit
  if digits.isEmpty || 9 < digits.length then failure
  return digits.foldl (fun n c => 10 * n + (c.toNat - '0'.toNat)) 0

def expect (c : Char) : Lex Unit := do
  if (← peek) = some c then skip 1 else failure

def isUriChar (inVerbatim : Bool) (c : Char) : Bool :=
  isWord c || ";/?:@&=+$.%!~*'()".toList.contains c ||
    (inVerbatim && [',', '[', ']'].contains c)

/-- How many octets begin with this one, by its leading bits. -/
def octetCount? (first : UInt8) : Option Nat :=
  if first < 0x80 then some 1
  else if first < 0xc0 then none
  else if first < 0xe0 then some 2
  else if first < 0xf0 then some 3
  else if first < 0xf8 then some 4
  else none

/-- The octets of the escapes in a URI, such as `%41`, and of its characters.
Those of an escaped character have the form of UTF-8; `inside` of them are still
to come. -/
def uriOctets (inside : Nat) : List Char → Option (List UInt8)
  | [] => if inside = 0 then some [] else none
  | '%' :: a :: b :: rest => do
    let octet := (← Text.hexNumber? [a, b]).toUInt8
    let more ← if inside = 0 then octetCount? octet
      else if 0x80 ≤ octet && octet < 0xc0 then some inside
      else none
    (uriOctets (more - 1) rest).map (octet :: ·)
  | c :: rest =>
    if c = '%' || inside ≠ 0 then none
    else (uriOctets 0 rest).map (c.toString.toUTF8.toList ++ ·)

/-- The octets that a text of a URI encodes.  An octet zero ends them. -/
def octets (text : List Char) : Lex (List UInt8) :=
  match uriOctets 0 text with
  | some octets => return octets.takeWhile (· ≠ 0)
  | none => failure

/-- A URI, which is not empty. -/
def uri (inVerbatim : Bool) : Lex (List UInt8) := do
  let text ← takeWhile (isUriChar inVerbatim)
  if text.isEmpty then failure
  octets text

/-- A handle of tags: an exclamation mark, letters, and perhaps another mark. -/
def handle : Lex (List Char) := do
  expect '!'
  let word ← takeWhile isWord
  if (← peek) = some '!' then
    skip 1
    return '!' :: word ++ ['!']
  return '!' :: word

def directive : Lex Token := do
  skip 1
  let name ← takeWhile isWord
  if name.isEmpty || !endsWord (← get).rest then failure
  let _ ← takeWhile isBlank
  let t ← match String.ofList name with
    | "YAML" => do
      let major ← versionNumber
      expect '.'
      pure (Token.version major (← versionNumber))
    | "TAG" => do
      let name ← handle
      if name.length ≠ 1 && name.getLast? ≠ some '!' then failure
      match ← peek with
      | some c => if !isBlank c then failure
      | none => failure
      let _ ← takeWhile isBlank
      let expansion ← uri true
      if !endsWord (← get).rest then failure
      pure (Token.tagHandle (String.ofList name) expansion)
    | _ => failure
  endOfLine
  return t

/-! ## Anchors and tags -/

def anchorName : Lex String := do
  skip 1
  let name ← takeWhile isWord
  if name.isEmpty then failure
  match ← peek with
  | none => pure ()
  | some c =>
    if !(isBlankOrBreak c || ['?', ':', ',', ']', '\x7d', '%', '@', '\x60'].contains c) then
      failure
  return String.ofList name

/-- The exclamation mark that begins a tag. -/
def tagMark : UInt8 := 0x21

/-- The handle and the suffix of a tag such as `!!str`, `!name` or `!<uri>`. -/
def tagParts : Lex (List Char × List UInt8) := do
  if (← get).rest.drop 1 |>.head? |> (· = some '<') then
    skip 2
    let suffix ← uri true
    expect '>'
    return ([], suffix)
  let name ← handle
  if 1 < name.length && name.getLast? = some '!' then return (name, ← uri false)
  let suffix ← octets (name.drop 1 ++ (← takeWhile (isUriChar false)))
  return if suffix.isEmpty then ([], [tagMark]) else (['!'], suffix)

def tag : Lex Token := do
  let (name, suffix) ← tagParts
  let s ← get
  if (s.flow = 0 || s.rest.head? ≠ some ',') && !endsWord s.rest then failure
  return .tag (String.ofList name) suffix

/-! ## Block scalars -/

/-- What becomes of the line breaks at the end of a block scalar. -/
inductive Chomping where
  | strip
  | clip
  | keep
deriving DecidableEq

def chomping? : Lex (Option Chomping) := do
  match ← peek with
  | some '+' => skip 1; return some .keep
  | some '-' => skip 1; return some .strip
  | _ => return none

/-- How far the lines of a block scalar are indented, if it says so. -/
def indentation? : Lex (Option Nat) := do
  match ← peek with
  | some c =>
    if !c.isDigit then return none
    if c = '0' then failure
    skip 1
    return some (c.toNat - '0'.toNat)
  | none => return none

def blockHeader : Lex (Chomping × Option Nat) := do
  match ← chomping? with
  | some chomping => return (chomping, ← indentation?)
  | none =>
    let indentation ← indentation?
    return ((← chomping?).getD .clip, indentation)

/-- Skips empty lines and the indentation of the next one: the breaks, and the
largest column reached.  Lines are indented up to `limit`, if it is known. -/
def emptyLines (limit : Option Nat) : Nat → Nat → Lex (List Char × Nat)
  | 0, widest => return ([], widest)
  | fuel + 1, widest => do
    let before := (← get).column
    let count := ((← get).rest.takeWhile (· = ' ')).length
    skip (match limit with
      | none => count
      | some n => min count (n - before))
    let s ← get
    let widest := max widest s.column
    let inIndent := match limit with
      | none => true
      | some n => decide (s.column < n)
    match s.rest.head? with
    | none => return ([], widest)
    | some c =>
      if inIndent && c = '\t' then failure
      if !isBreak c then return ([], widest)
      let read ← lineBreak
      let (more, widest) ← emptyLines limit fuel widest
      return (read ++ more, widest)

/-- The lines of a block scalar at a column.  `first` is the break before the
next line, `more` are the breaks of empty lines after it, and `afterBlank` tells
that the line before began with a blank. -/
def blockLines (literal : Bool) (column fuelOfLines : Nat) :
    Nat → Bool → List Char → List Char → Lex (List Char × List Char × List Char)
  | 0, _, first, more => return ([], first, more)
  | fuel + 1, afterBlank, first, more => do
    let s ← get
    if s.column ≠ column || s.rest.isEmpty then return ([], first, more)
    let blank := match s.rest with
      | c :: _ => isBlank c
      | [] => false
    let gap :=
      if !literal && first = ['\n'] && !afterBlank && !blank then
        if more.isEmpty then [' '] else more
      else first ++ more
    let text ← takeWhile fun c => !isBreak c
    let next ← lineBreak
    let (breaks, _) ← emptyLines (some column) fuelOfLines 0
    let (lines, last) ← blockLines literal column fuelOfLines fuel blank next breaks
    return (gap ++ text ++ lines, last)

def blockScalar (literal : Bool) (fuel : Nat) : Lex Token := do
  skip 1
  let (chomping, indentation) ← blockHeader
  endOfLine
  let parent := (← get).indent
  let given := indentation.map fun n => (max parent 0).toNat + n
  let (breaks, widest) ← emptyLines given fuel 0
  let column := given.getD (max widest (max (parent + 1) 1).toNat)
  let (lines, first, more) ← blockLines literal column fuel fuel false [] breaks
  let tail := match chomping with
    | .strip => []
    | .clip => first
    | .keep => first ++ more
  return .scalar (String.ofList (lines ++ tail)) (if literal then .literal else .folded)

/-! ## Quoted and plain scalars -/

/-- The blanks and breaks between two words of a scalar. -/
inductive Gap where
  | blanks (text : List Char)
  /-- A first break, none if it was escaped, and the breaks after it. -/
  | broken (first more : List Char)

/-- One line break between words is a space; of several the first is dropped. -/
def Gap.fold : Gap → List Char
  | .blanks text => text
  | .broken first more =>
    if first = ['\n'] then (if more.isEmpty then [' '] else more) else first ++ more

def Gap.isBroken : Gap → Bool
  | .blanks _ => false
  | .broken .. => true

/-- Reads on in a gap.  A tab before column `tabLimit` of a later line fails. -/
def gap (tabLimit : Nat) : Nat → Gap → Lex Gap
  | 0, g => return g
  | fuel + 1, g => do
    let s ← get
    match s.rest.head? with
    | none => return g
    | some c =>
      if isBlank c then
        if g.isBroken && c = '\t' && s.column < tabLimit then failure
        skip 1
        gap tabLimit fuel (match g with
          | .blanks text => .blanks (text ++ [c])
          | g => g)
      else if isBreak c then
        let read ← lineBreak
        gap tabLimit fuel (match g with
          | .blanks _ => .broken read []
          | .broken first more => .broken first (more ++ read))
      else return g

/-- The character of an escape, after the backslash. -/
def escape : Lex Char := do
  let coded := fun (count : Nat) => do
    let digits := (← get).rest.take count
    if digits.length ≠ count then failure
    let n ← Text.hexNumber? digits
    if (0xd800 ≤ n && n ≤ 0xdfff) || 0x10ffff < n then failure
    skip count
    return Char.ofNat n
  let c ← match ← peek with
    | none => failure
    | some c => pure c
  skip 1
  match c with
  | '0' => return '\x00'
  | 'a' => return '\x07'
  | 'b' => return '\x08'
  | 't' | '\t' => return '\t'
  | 'n' => return '\n'
  | 'v' => return '\x0b'
  | 'f' => return '\x0c'
  | 'r' => return '\r'
  | 'e' => return '\x1b'
  | ' ' | '"' | '/' | '\\' => return c
  | 'N' => return nextLine
  | '_' => return '\u00a0'
  | 'L' => return lineSeparator
  | 'P' => return paragraphSeparator
  | 'x' => coded 2
  | 'u' => coded 4
  | 'U' => coded 8
  | _ => failure

/-- The characters of a quoted scalar up to a blank, a break or the closing
quote, and whether an escaped line break ended them. -/
def quotedWord (quote : Char) : Nat → Lex (List Char × Bool)
  | 0 => failure
  | fuel + 1 => do
    let more := fun (c : Char) => do
      let (word, broken) ← quotedWord quote fuel
      return (c :: word, broken)
    match (← get).rest with
    | [] => return ([], false)
    | c :: rest =>
      if isBlankOrBreak c then return ([], false)
      else if c = quote then
        if quote = '\'' && rest.head? = some '\'' then
          skip 2
          more '\''
        else return ([], false)
      else if quote = '"' && c = '\\' then
        skip 1
        match rest.head? with
        | some d =>
          if isBreak d then
            let _ ← lineBreak
            return ([], true)
          else more (← escape)
        | none => failure
      else
        skip 1
        more c

def quotedText (quote : Char) (fuelOfWord : Nat) : Nat → Lex (List Char)
  | 0 => failure
  | fuel + 1 => do
    if (← get).atAnyMarker || (← get).rest.isEmpty then failure
    let (word, broken) ← quotedWord quote fuelOfWord
    if (← peek) = some quote then
      skip 1
      return word
    let g ← gap 0 fuelOfWord (if broken then .broken [] [] else .blanks [])
    return word ++ g.fold ++ (← quotedText quote fuelOfWord fuel)

def quotedScalar (quote : Char) (fuel : Nat) : Lex Token := do
  skip 1
  let text ← quotedText quote fuel fuel
  return .scalar (String.ofList text) (if quote = '"' then .double else .single)

/-- Whether a plain scalar ends before these characters. -/
def endsPlain (inFlow : Bool) : List Char → Bool
  | [] => true
  | c :: rest =>
    isBlankOrBreak c || (c = ':' && endsWord rest) || (inFlow && isFlowIndicator c)

/-- In a flow collection a colon of a plain scalar may not meet an indicator. -/
def badColon : List Char → Bool
  | ':' :: c :: _ => c = '?' || isFlowIndicator c
  | _ => false

def plainWord (inFlow : Bool) : Nat → Lex (List Char)
  | 0 => return []
  | fuel + 1 => do
    match (← get).rest with
    | [] => return []
    | c :: rest =>
      if !isBlankOrBreak c && inFlow && badColon (c :: rest) then failure
      if endsPlain inFlow (c :: rest) then return []
      skip 1
      return c :: (← plainWord inFlow fuel)

/-- The words of a plain scalar, each with the gap before it.  The gap after the
last word is dropped; a line break in it allows a key to follow. -/
def plainText (inFlow : Bool) (column fuelOfWord : Nat) : Nat → Gap → Lex (List Char × Bool)
  | 0, _ => failure
  | fuel + 1, before => do
    let s ← get
    if s.atAnyMarker || s.rest.head? = some '#' then return ([], before.isBroken)
    let word ← plainWord inFlow fuelOfWord
    let text := if word.isEmpty then [] else before.fold ++ word
    match ← peek with
    | none => return (text, before.isBroken && word.isEmpty)
    | some c =>
      if !isBlankOrBreak c then return (text, before.isBroken && word.isEmpty)
      let after ← gap column fuelOfWord (if word.isEmpty then before else .blanks [])
      if !inFlow && (← get).column < column then return (text, after.isBroken)
      let (more, broken) ← plainText inFlow column fuelOfWord fuel after
      return (text ++ more, broken)

def plainScalar (fuel : Nat) : Lex Token := do
  let s ← get
  let (text, broken) ← plainText (s.flow ≠ 0) (s.indent + 1).toNat fuel fuel (.blanks [])
  if broken then allowKey true
  return .scalar (String.ofList text) .plain

/-! ## One token after the other -/

def documentMarker (t : Token) : Lex Unit := do
  closeBlocks (-1)
  dropKey
  allowKey false
  skip 3
  emit t

def flowStart (t : Token) : Lex Unit := do
  saveKey
  modify fun s => { s with flow := s.flow + 1, keys := none :: s.keys }
  allowKey true
  skip 1
  emit t

def flowEnd (t : Token) : Lex Unit := do
  dropKey
  modify fun s => if s.flow = 0 then s else { s with flow := s.flow - 1, keys := s.keys.drop 1 }
  allowKey false
  skip 1
  emit t

def comma : Lex Unit := do
  dropKey
  allowKey true
  skip 1
  emit .comma

/-- In a block an indicator needs a place where a key may stand. -/
def openBlockHere (t : Token) : Lex Unit := do
  let s ← get
  if s.flow = 0 then
    if !s.keyAllowed then failure
    openBlock s.column none t

def blockEntry : Lex Unit := do
  openBlockHere .sequenceStart
  dropKey
  allowKey true
  skip 1
  emit .entry

def explicitKey : Lex Unit := do
  openBlockHere .mappingStart
  dropKey
  allowKey ((← get).flow = 0)
  skip 1
  emit .key

/-- The value of the possible key, or of an explicit or empty one. -/
def value : Lex Unit := do
  let s ← get
  match s.keys with
  | some place :: keys =>
    set { s with keys := none :: keys, tokens := s.tokens.insertIdxIfInBounds place.token .key }
    openBlock place.column (some place.token) .mappingStart
    allowKey false
  | _ =>
    openBlockHere .mappingStart
    allowKey (s.flow = 0)
  skip 1
  emit .value

/-- A scalar, an anchor or a tag, with which a key may begin. -/
def content (read : Lex Token) : Lex Unit := do
  saveKey
  allowKey false
  emit (← read)

def startsPlain (inFlow : Bool) (c : Char) (rest : List Char) : Bool :=
  let blankNext := match rest with
    | d :: _ => isBlank d
    | [] => false
  if c = '-' then !blankNext
  else if c = '?' || c = ':' then !inFlow && !endsWord rest
  else
    !isBlankOrBreak c && !isFlowIndicator c &&
      !(['#', '&', '*', '!', '|', '>', '\'', '"', '%', '@', '\x60'].contains c)

/-- The token that begins with the next character. -/
def next (fuel : Nat) (c : Char) (rest : List Char) : Lex Unit := do
  let s ← get
  let inFlow := s.flow ≠ 0
  if s.column = 0 && c = '%' then
    closeBlocks (-1)
    dropKey
    allowKey false
    emit (← directive)
  else if s.atMarker '-' then documentMarker .documentStart
  else if s.atMarker '.' then documentMarker .documentEnd
  else if c = '[' then flowStart .listStart
  else if c = '\x7b' then flowStart .objectStart
  else if c = ']' then flowEnd .listEnd
  else if c = '\x7d' then flowEnd .objectEnd
  else if c = ',' then comma
  else if c = '-' && endsWord rest then blockEntry
  else if c = '?' && (inFlow || endsWord rest) then explicitKey
  else if c = ':' && (inFlow || endsWord rest) then value
  else if c = '*' then content (do return .alias (← anchorName))
  else if c = '&' then content (do return .anchor (← anchorName))
  else if c = '!' then content tag
  else if (c = '|' || c = '>') && !inFlow then
    dropKey
    allowKey true
    emit (← blockScalar (c = '|') fuel)
  else if c = '\'' || c = '"' then content (quotedScalar c fuel)
  else if startsPlain inFlow c rest then content (plainScalar fuel)
  else failure

/-- All tokens that are left.  Each takes a character, and `fuel` bounds them. -/
def tokens (fuelOfToken : Nat) : Nat → Lex Unit
  | 0 => failure
  | fuel + 1 => do
    blanks fuelOfToken
    dropStaleKeys
    closeBlocks (← get).column
    match (← get).rest with
    | [] =>
      closeBlocks (-1)
      dropKey
    | c :: rest =>
      next fuelOfToken c rest
      tokens fuelOfToken fuel

end Lex

/-- The tokens of a text, if it is well formed. -/
def Token.scan (text : String) : Option (List Token) :=
  if !text.toList.all isAllowed then none
  else
    let start := Lexer.ofText text
    let fuel := start.rest.length + 2
    ((Lex.tokens fuel fuel).run start).map fun (_, s) => s.tokens.toList

end EditorBlocks.Yaml
