import EditorBlocks.Decimal.Layout
import EditorBlocks.Json.Basic
import EditorBlocks.Yaml.Value

/-!
# YAML text

Writing a value in block style: entries of a list stand behind dashes, at the
indentation of the key above them.  A string is plain where it can be, else
quoted; one with several lines becomes a literal block.
-/

namespace EditorBlocks.Yaml

/-! ## What a string allows -/

/-- Characters that are written as they are. -/
def isPrintable (c : Char) : Bool :=
  let n := c.toNat
  n = 10 || (0x20 ≤ n && n ≤ 0x7e) || (0xa0 ≤ n && n ≤ 0xfffd && c ≠ byteOrderMark) || 0x10000 ≤ n

/-- Characters that a plain scalar in a block may not begin with. -/
def isLeadingIndicator (c : Char) : Bool :=
  ['#', ',', '[', ']', '\x7b', '\x7d', '&', '*', '!', '|', '>', '\'', '"', '%', '@',
    '\x60'].contains c

/-- Whether characters would be taken for indicators in a plain scalar. -/
def hasIndicators (first afterBlank : Bool) : List Char → Bool
  | [] => false
  | c :: rest =>
    (first && (isLeadingIndicator c || ((c = '?' || c = '-') && endsWord rest))) ||
      (c = ':' && endsWord rest) || (!first && c = '#' && afterBlank) ||
      hasIndicators false (isBlankOrBreak c) rest

def startsLikeMarker (text : List Char) : Bool :=
  text.take 3 = ['-', '-', '-'] || text.take 3 = ['.', '.', '.']

/-- Whether some character of one class follows one of another. -/
def adjacent (p q : Char → Bool) : List Char → Bool
  | c :: d :: rest => (p c && q d) || adjacent p q (d :: rest)
  | _ => false

def isSpace (c : Char) : Bool := c = ' '

structure Analysis where
  multiline : Bool
  plainAllowed : Bool
  singleAllowed : Bool
  blockAllowed : Bool

def analyse (text : List Char) : Analysis :=
  let breaks := text.any isBreak
  let outer := fun c => isSpace c || isBreak c
  let padded := (text.head?.any outer) || (text.getLast?.any outer)
  let breakSpace := adjacent isBreak isSpace text
  let special := adjacent isSpace isBreak text || !text.all isPrintable
  { multiline := breaks
    plainAllowed := !(startsLikeMarker text || hasIndicators true true text || padded ||
      breakSpace || special || breaks)
    singleAllowed := !(breakSpace || special)
    blockAllowed := !text.isEmpty && !text.getLast?.any isSpace && !special }

/-! ## Scalars -/

/-- A text that would not be read as a string has to be quoted. -/
def readsAsString (s : String) : Bool :=
  match plainValue s with
  | some (.string _) => !isPaddedNumber s.toList
  | _ => false

/-- The style of a string; a simple key stands on one line. -/
def style (s : String) (simpleKey : Bool) : Style :=
  let a := analyse s.toList
  let wanted := if s.toList.contains '\n' then Style.literal
    else if readsAsString s then .plain else .single
  let wanted := if simpleKey && a.multiline then .double else wanted
  let wanted := if wanted = .plain && !a.plainAllowed then .single else wanted
  let wanted := if wanted = .single && !a.singleAllowed then .double else wanted
  if wanted = .literal && (!a.blockAllowed || simpleKey) then .double else wanted

def upperHex (width n : Nat) : String :=
  let digits := (Nat.toDigits 16 n).map Char.toUpper
  String.ofList (List.replicate (width - digits.length) '0' ++ digits)

def escapeText (c : Char) : String :=
  if c = '\x00' then "\\0"
  else if c = '\x07' then "\\a"
  else if c = '\x08' then "\\b"
  else if c = '\t' then "\\t"
  else if c = '\n' then "\\n"
  else if c = '\x0b' then "\\v"
  else if c = '\x0c' then "\\f"
  else if c = '\r' then "\\r"
  else if c = '\x1b' then "\\e"
  else if c = '"' then "\\\""
  else if c = '\\' then "\\\\"
  else if c = nextLine then "\\N"
  else if c = lineSeparator then "\\L"
  else if c = paragraphSeparator then "\\P"
  else if c.toNat ≤ 0xff then "\\x" ++ upperHex 2 c.toNat
  else if c.toNat ≤ 0xffff then "\\u" ++ upperHex 4 c.toNat
  else "\\U" ++ upperHex 8 c.toNat

def doubleQuoted (s : String) : String :=
  "\"" ++ s.foldl (fun text c =>
    text ++ if !isPrintable c || isBreak c || c = '"' || c = '\\' then escapeText c
      else c.toString) "" ++ "\""

def spaces (n : Nat) : String := String.ofList (List.replicate n ' ')

/-- The characters after a break of a quoted scalar are indented. -/
def singleQuotedChars (indent : Nat) : Bool → List Char → String
  | afterBreak, [] => if afterBreak then spaces indent else ""
  | afterBreak, c :: rest =>
    if isBreak c then c.toString ++ singleQuotedChars indent true rest
    else
      (if afterBreak && c ≠ ' ' then spaces indent else "") ++
        (if c = '\'' then "''" else c.toString) ++
        singleQuotedChars indent (afterBreak && c = ' ') rest

def singleQuoted (indent : Nat) (s : String) : String :=
  "'" ++ singleQuotedChars indent false s.toList ++ "'"

/-- The lines of a literal block, indented where they are not empty. -/
def literalChars (indent : Nat) : Bool → List Char → String
  | _, [] => ""
  | afterBreak, c :: rest =>
    if isBreak c then c.toString ++ literalChars indent true rest
    else
      (if afterBreak then spaces indent else "") ++ c.toString ++
        literalChars indent false rest

/-- An indentation that the text hides is given, and then what becomes of the
breaks at its end: none to drop, one to keep, or all of several. -/
def literalHeader (text : List Char) : String :=
  let hidden := text.head?.any fun c => isSpace c || isBreak c
  let chomping := match text.reverse with
    | c :: before =>
      if !isBreak c then "-"
      else
        match before with
        | [] => "+"
        | d :: _ => if isBreak d then "+" else ""
    | [] => "-"
  "|" ++ (if hidden then "2" else "") ++ chomping ++ "\n"

def literal (indent : Nat) (s : String) : String :=
  let text := s.toList
  literalHeader text ++ literalChars indent true text

/-- A string whose further lines are indented by `indent`. -/
def stringText (s : String) (simpleKey : Bool) (indent : Nat) : String :=
  match style s simpleKey with
  | .plain => s
  | .single => singleQuoted indent s
  | .double => doubleQuoted s
  | .literal | .folded => literal indent s

/-- Ends the line, unless it has ended already. -/
def endLine (text : String) : String :=
  if text.toList.getLast?.any isBreak then text else text ++ "\n"

def numberText : Number → String
  | .int n => toString n
  | .float x => Decimal.Layout.yaml.float x

/-! ## Collections -/

/-- Longer keys are written behind a question mark. -/
def simpleKeyLimit : Nat := 128

def isSimpleKey (key : String) : Bool :=
  !(analyse key.toList).multiline && key.utf8ByteSize ≤ simpleKeyLimit

mutual

/-- A value that begins in the middle of a line, where its own lines are
indented by `indent`: all its lines. -/
def inline (indent : Nat) : Json → String
  | .null => "null\n"
  | .bool b => if b then "true\n" else "false\n"
  | .number n => numberText n ++ "\n"
  | .string s => endLine (stringText s false indent)
  | .list [] => "[]\n"
  | .list (item :: rest) =>
    "- " ++ inline (indent + 2) item ++ itemLines indent rest
  | .object [] => "\x7b\x7d\n"
  | .object ((key, value) :: rest) => entry indent key value ++ entryLines indent rest

def itemLines (indent : Nat) : List Json → String
  | [] => ""
  | item :: rest =>
    spaces indent ++ "- " ++ inline (indent + 2) item ++ itemLines indent rest

def entryLines (indent : Nat) : List (String × Json) → String
  | [] => ""
  | (key, value) :: rest => spaces indent ++ entry indent key value ++ entryLines indent rest

/-- An entry of an object whose entries are indented by `indent`.  A list as its
value needs no more indentation, an object does. -/
def entry (indent : Nat) (key : String) (value : Json) : String :=
  if isSimpleKey key then
    stringText key true (indent + 2) ++ ":" ++
      match value with
      | .list (item :: rest) => "\n" ++ itemLines indent (item :: rest)
      | .object (m :: rest) => "\n" ++ entryLines (indent + 2) (m :: rest)
      | value => " " ++ inline (indent + 2) value
  else
    "? " ++ endLine (stringText key false (indent + 2)) ++ spaces indent ++ ": " ++
      inline (indent + 2) value

end

/-- The text of a value.  A string with several lines is indented even when it
stands alone. -/
def write : Json → String
  | .string s => endLine (stringText s false 2)
  | value => inline 0 value

end EditorBlocks.Yaml
