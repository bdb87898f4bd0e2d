import EditorBlocks.Decimal.Nearest
import EditorBlocks.Text.Hex
import EditorBlocks.Toml.Value

/-!
# Reading TOML text

A text is a list of lines: headers of tables, and keys with their values.  The
lines are read first, and then put together to one table.
-/

namespace EditorBlocks.Toml

/-- A reader of a part of the text, which gives what is left of it. -/
abbrev Reader := StateT (List Char) Option

namespace Reader

/-! ## Characters -/

def peek : Reader (Option Char) := do return (← get).head?

def skip (count : Nat) : Reader Unit := modify fun rest => rest.drop count

def next : Reader Char := do
  match ← get with
  | [] => failure
  | c :: rest =>
    set rest
    return c

def takeWhile (p : Char → Bool) : Reader (List Char) := modifyGet fun rest =>
  (rest.takeWhile p, rest.dropWhile p)

def expect (c : Char) : Reader Unit := do
  if (← next) ≠ c then failure

/-- Takes a word, if the text goes on with it. -/
def tryWord (word : List Char) : Reader Bool := do
  if word.isPrefixOf (← get) then
    skip word.length
    return true
  return false

def isBlank (c : Char) : Bool := c = ' ' || c = '\t'

def blanks : Reader Unit := do
  let _ ← takeWhile isBlank

/-- Characters of comments and, apart from quotes, of literal strings. -/
def isText (c : Char) : Bool :=
  let n := c.toNat
  n = 9 || (0x20 ≤ n && n ≤ 0x7e) || 0x80 ≤ n

def tryLineBreak : Reader Bool := do
  if ← tryWord ['\n'] then return true
  tryWord ['\r', '\n']

def comment : Reader Unit := do
  if (← peek) = some '#' then
    let _ ← takeWhile isText

/-- The rest of a line that may hold nothing but a comment. -/
def endOfLine : Reader Unit := do
  blanks
  comment
  if (← peek).isSome then
    if !(← tryLineBreak) then failure

/-- Blanks, comments and line breaks between the items of an array. -/
def gap : Nat → Reader Unit
  | 0 => return
  | fuel + 1 => do
    blanks
    comment
    if ← tryLineBreak then gap fuel

/-! ## Strings -/

/-- The character with a number of so many hexadecimal digits. -/
def codePoint (digits : Nat) : Reader Char := do
  let taken := (← get).take digits
  if taken.length ≠ digits then failure
  skip digits
  match Text.hexNumber? taken with
  | none => failure
  | some n => if n.isValidChar then return Char.ofNat n else failure

/-- The character that an escape stands for, after its backslash. -/
def escape : Reader Char := do
  match ← next with
  | 'b' => return '\x08'
  | 'f' => return '\x0c'
  | 'n' => return '\n'
  | 'r' => return '\r'
  | 't' => return '\t'
  | 'u' => codePoint 4
  | 'U' => codePoint 8
  | c => if c = '"' || c = '\\' then return c else failure

/-- The rest of a string on one line, after its opening quote. -/
def basicString : Nat → Reader (List Char)
  | 0 => failure
  | fuel + 1 => do
    let taken ← takeWhile fun c => isText c && c ≠ '"' && c ≠ '\\'
    match ← next with
    | '\\' =>
      let c ← escape
      return taken ++ c :: (← basicString fuel)
    | c => if c = '"' then return taken else failure

def literalString : Reader (List Char) := do
  let taken ← takeWhile fun c => isText c && c ≠ '\''
  expect '\''
  return taken

/-- The quotes at the end of a string over several lines: three close it, and up
to two before them belong to it.  Fewer than three do not end it. -/
def closing (quote : Char) : Reader (List Char × Bool) := do
  let quotes := ((← get).takeWhile (· = quote)).length
  if quotes < 3 then
    skip quotes
    return (List.replicate quotes quote, false)
  let inside := min (quotes - 3) 2
  skip (inside + 3)
  return (List.replicate inside quote, true)

/-- Blanks and line breaks after a backslash at the end of a line. -/
def continuation : Nat → Reader Unit
  | 0 => return
  | fuel + 1 => do
    blanks
    if ← tryLineBreak then continuation fuel

/-- The rest of a string over several lines.  Escapes are read in one of double
quotes only. -/
def longString (quote : Char) : Nat → Reader (List Char)
  | 0 => failure
  | fuel + 1 => do
    let taken ← takeWhile fun c => isText c && c ≠ quote && (c ≠ '\\' || quote = '\'')
    if ← tryLineBreak then return taken ++ '\n' :: (← longString quote fuel)
    match ← peek with
    | none => failure
    | some c =>
      if c = quote then
        let (quotes, ended) ← closing quote
        if ended then return taken ++ quotes
        return taken ++ quotes ++ (← longString quote fuel)
      else if c = '\\' then
        skip 1
        let rest ← get
        match rest.dropWhile isBlank with
        | '\n' :: _ | '\r' :: '\n' :: _ =>
          continuation fuel
          return taken ++ (← longString quote fuel)
        | _ =>
          let c ← escape
          return taken ++ c :: (← longString quote fuel)
      else failure

/-- A string in quotes of a kind.  A line break right after three opening quotes
is not part of it. -/
def quoted (quote : Char) (fuel : Nat) : Reader String := do
  if ← tryWord [quote, quote, quote] then
    let _ ← tryLineBreak
    return String.ofList (← longString quote fuel)
  expect quote
  return String.ofList (← if quote = '"' then basicString fuel else literalString)

/-! ## Keys -/

def isKeyChar (c : Char) : Bool := c.isAlphanum || c = '_' || c = '-'

def simpleKey (fuel : Nat) : Reader String := do
  match ← peek with
  | some '"' =>
    skip 1
    return String.ofList (← basicString fuel)
  | some '\'' =>
    skip 1
    return String.ofList (← literalString)
  | _ =>
    let name ← takeWhile isKeyChar
    if name.isEmpty then failure
    return String.ofList name

/-- How many keys a dotted key may have, and how deep values may be nested. -/
def depthLimit : Nat := 79

/-- The keys of a dotted key: those that lead to a table, and the last one. -/
def key (fuel : Nat) : Nat → Reader (List String × String)
  | 0 => failure
  | depth + 1 => do
    blanks
    let name ← simpleKey fuel
    blanks
    if ← tryWord ['.'] then
      let (path, last) ← key fuel depth
      return (name :: path, last)
    return ([], name)

/-! ## Numbers and moments -/

def isDigitOf (base : Nat) (c : Char) : Bool :=
  match Text.hexValue? c with
  | some v => v < base
  | none => false

/-- Digits in which single underscores may stand between two of them. -/
def digits (p : Char → Bool) : Nat → Reader (List Char)
  | 0 => failure
  | fuel + 1 => do
    let some c ← peek | failure
    if !p c then failure
    let taken ← takeWhile p
    match ← get with
    | '_' :: d :: _ =>
      if p d then
        skip 1
        return taken ++ (← digits p fuel)
      return taken
    | _ => return taken

/-- A sign, and digits of which the first is a zero only if it is alone. -/
def wholePart (fuel : Nat) : Reader (List Char) := do
  let sign ← takeSign
  match ← peek with
  | some '0' =>
    skip 1
    return sign ++ ['0']
  | _ => return sign ++ (← digits Char.isDigit fuel)
where
  takeSign : Reader (List Char) := do
    match ← peek with
    | some '+' => skip 1; return ['+']
    | some '-' => skip 1; return ['-']
    | _ => return []

def valueOf (base : Nat) (text : List Char) : Nat :=
  text.foldl (fun n c => base * n + (Text.hexValue? c).getD 0) 0

/-- An integer of 64 bits. -/
def ofInt (n : Int) : Reader Value :=
  if -0x8000000000000000 ≤ n ∧ n < 0x8000000000000000 then return .integer n else failure

def integer (fuel : Nat) : Reader Value := do
  let inBase := fun base => do
    ofInt (valueOf base (← digits (isDigitOf base) fuel))
  if ← tryWord ['0', 'x'] then inBase 16
  else if ← tryWord ['0', 'o'] then inBase 8
  else if ← tryWord ['0', 'b'] then inBase 2
  else
    match ← wholePart fuel with
    | '-' :: text => ofInt (-(valueOf 10 text : Int))
    | '+' :: text => ofInt (valueOf 10 text)
    | text => ofInt (valueOf 10 text)

def exponentPart (fuel : Nat) : Reader (List Char) := do
  skip 1
  let sign ← wholePart.takeSign
  return 'e' :: sign ++ (← digits Char.isDigit fuel)

def startsExponent (c : Option Char) : Bool := c = some 'e' || c = some 'E'

/-- A number with a fraction or an exponent.  One that is too large is none. -/
def float (fuel : Nat) : Reader Value := do
  let whole ← wholePart fuel
  let fraction ← if ← tryWord ['.'] then pure ('.' :: (← digits Char.isDigit fuel)) else pure []
  let power ← if startsExponent (← peek) then exponentPart fuel else pure []
  if fraction.isEmpty && power.isEmpty then failure
  match Decimal.readFloat (whole ++ fraction ++ power) with
  | some x => if x == 1.0 / 0.0 then failure else return .float x
  | none => failure

def specialFloat : Reader Value := do
  let negative := (← wholePart.takeSign) = ['-']
  if ← tryWord ['i', 'n', 'f'] then return .float (if negative then -1.0 / 0.0 else 1.0 / 0.0)
  if ← tryWord ['n', 'a', 'n'] then return .float (0.0 / 0.0)
  failure

/-- A number of exactly so many digits, in a range. -/
def field (count low high : Nat) : Reader Unit := do
  let taken := (← get).take count
  if taken.length ≠ count || !taken.all Char.isDigit then failure
  let n := valueOf 10 taken
  if n < low || high < n then failure
  skip count

def isLeapYear (year : Nat) : Bool := year % 4 = 0 && (year % 100 ≠ 0 || year % 400 = 0)

def daysIn (year month : Nat) : Nat :=
  if month = 2 then if isLeapYear year then 29 else 28
  else if [4, 6, 9, 11].contains month then 30
  else 31

def date : Reader Unit := do
  let year := valueOf 10 ((← get).take 4)
  field 4 0 9999
  expect '-'
  let month := valueOf 10 ((← get).take 2)
  field 2 1 12
  expect '-'
  field 2 1 (daysIn year month)

def timeOfDay : Reader Unit := do
  field 2 0 23
  expect ':'
  field 2 0 59
  expect ':'
  field 2 0 60
  match ← get with
  | '.' :: c :: _ =>
    if c.isDigit then
      skip 1
      let _ ← takeWhile Char.isDigit
  | _ => pure ()

def offset : Reader Unit := do
  match ← next with
  | 'Z' | 'z' => return
  | '+' | '-' =>
    field 2 0 23
    expect ':'
    field 2 0 59
  | _ => failure

def optional (r : Reader Unit) : Reader Unit := r <|> pure ()

def moment : Reader Value := do
  let before ← get
  dateAndTime <|> timeOfDay
  let left := (← get).length
  return .moment (String.ofList (before.take (before.length - left)))
where
  dateAndTime : Reader Unit := do
    date
    optional do
      match ← next with
      | 'T' | 't' | ' ' =>
        timeOfDay
        optional offset
      | _ => failure

def number (fuel : Nat) : Reader Value :=
  moment <|> float fuel <|> specialFloat <|> integer fuel

/-! ## Values

Each call takes at least one character, so the length of the text bounds the
number of calls. -/

mutual

def value (depth : Nat) : Nat → Reader Value
  | 0 => failure
  | fuel + 1 => do
    match ← peek with
    | some '"' => return .string (← quoted '"' fuel)
    | some '\'' => return .string (← quoted '\'' fuel)
    | some '[' =>
      match depth with
      | 0 => failure
      | depth + 1 =>
        skip 1
        gap fuel
        return .array (← items depth fuel)
    | some '\x7b' =>
      match depth with
      | 0 => failure
      | depth + 1 =>
        skip 1
        blanks
        if ← tryWord ['\x7d'] then return .table .braces []
        return (← pairs depth fuel (.empty .braces)).toValue
    | some 't' => if ← tryWord ['t', 'r', 'u', 'e'] then return .boolean true else failure
    | some 'f' =>
      if ← tryWord ['f', 'a', 'l', 's', 'e'] then return .boolean false else failure
    | _ => number fuel

/-- The items of an array up to its closing bracket. -/
def items (depth : Nat) : Nat → Reader (List Value)
  | 0 => failure
  | fuel + 1 => do
    if ← tryWord [']'] then return []
    let item ← value depth fuel
    gap fuel
    if ← tryWord [','] then
      gap fuel
      return item :: (← items depth fuel)
    expect ']'
    return [item]

/-- The entries of a table in braces, added to those before them. -/
def pairs (depth : Nat) : Nat → Table → Reader Table
  | 0, _ => failure
  | fuel + 1, t => do
    let (path, last) ← key fuel depthLimit
    expect '='
    blanks
    let v ← value depth fuel
    blanks
    let some t := t.define path last v | failure
    if ← tryWord [','] then pairs depth fuel t
    else
      expect '\x7d'
      return t

end

/-! ## Lines -/

inductive Line where
  | header (path : List String) (last : String)
  | repeatedHeader (path : List String) (last : String)
  | pair (path : List String) (last : String) (value : Value)

def line (fuel : Nat) : Reader Line := do
  if ← tryWord ['[', '['] then
    let (path, last) ← key fuel depthLimit
    expect ']'
    expect ']'
    endOfLine
    return .repeatedHeader path last
  if ← tryWord ['['] then
    let (path, last) ← key fuel depthLimit
    expect ']'
    endOfLine
    return .header path last
  let (path, last) ← key fuel depthLimit
  expect '='
  blanks
  let v ← value depthLimit fuel
  endOfLine
  return .pair path last v

def lines (fuel : Nat) : Nat → Reader (List Line)
  | 0 => failure
  | count + 1 => do
    gap fuel
    if (← peek).isNone then return []
    let l ← line fuel
    return l :: (← lines fuel count)

end Reader

/-! ## Putting the lines together -/

/-- The table of the whole text, and the keys of the header read last. -/
structure Builder where
  root : Table
  current : List String

def Builder.add (b : Builder) : Reader.Line → Option Builder
  | .header path last => do return ⟨← b.root.openTable path last, path ++ [last]⟩
  | .repeatedHeader path last => do return ⟨← b.root.openNext path last, path ++ [last]⟩
  | .pair path last value => do
    return { b with root := ← b.root.update b.current (Table.define path last value) }

/-- Reads a TOML text. -/
def read (text : String) : Option Table := do
  let chars := match text.toList with
    | '\ufeff' :: rest => rest
    | chars => chars
  let fuel := 2 * chars.length + 2
  let lines ← (Reader.lines fuel fuel).run' chars
  let b ← lines.foldlM Builder.add ⟨Table.empty .header, []⟩
  return b.root

end EditorBlocks.Toml
