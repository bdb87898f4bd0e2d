import EditorBlocks.Json.Writer

/-!
# TOML text

Writing tables of plain entries, one section after the other.  A string is
written in the plainest form that needs no escapes.
-/

namespace EditorBlocks.Toml

/-- What a section can hold. -/
inductive Entry where
  | string (s : String)
  | boolean (b : Bool)
  | strings (items : List String)
deriving DecidableEq, Repr

/-! ## Strings -/

/-- Characters that only escapes can write. -/
def needsEscape (c : Char) : Bool :=
  (c.toNat ≤ 0x1f && c ≠ '\t' && c ≠ '\n') || c.toNat = 0x7f

/-- The length of the longest run of a character; `run` of it came just before. -/
def longestRun (c : Char) (run : Nat) : List Char → Nat
  | [] => run
  | d :: rest => if d = c then longestRun c (run + 1) rest else max run (longestRun c 0 rest)

/-- A way to write a string.  Double quotes allow escapes, and threefold ones
allow line breaks. -/
inductive Form where
  | basic
  | literal
  | basicLines
  | literalLines
deriving DecidableEq, Repr

namespace Form

def delimiter : Form → String
  | basic => "\""
  | literal => "'"
  | basicLines => "\"\"\""
  | literalLines => "'''"

def allowsLines : Form → Bool
  | basic | literal => false
  | basicLines | literalLines => true

def allowsEscapes : Form → Bool
  | basic | basicLines => true
  | literal | literalLines => false

/-- How many quotes may stand together without ending the string. -/
def quoteLimit (form : Form) : Nat := if form.allowsLines then 2 else 0

/-- The quote that delimits. -/
def quote (form : Form) : Char := if form.allowsEscapes then '"' else '\''

/-- Whether a text can be written in a form without any escape. -/
def suits (form : Form) (text : List Char) : Bool :=
  !text.any needsEscape && !(form.allowsEscapes && text.contains '\\') &&
    longestRun form.quote 0 text ≤ form.quoteLimit && (form.allowsLines || !text.contains '\n')

/-- The first form that needs no escapes, or else the one with the least need. -/
def best (text : List Char) : Form :=
  ([basic, literal, basicLines, literalLines].find? (·.suits text)).getD
    (if text.contains '\n' then basicLines else basic)

end Form

/-- The hexadecimal digits of a number, at least four. -/
def hexDigits (n : Nat) : String :=
  let digits := (Nat.toDigits 16 n).map Char.toUpper
  String.ofList (List.replicate (4 - digits.length) '0' ++ digits)

/-- The escape of a character other than a quote, if it has to be escaped. -/
def escape? (form : Form) (c : Char) : Option String :=
  if c = '\\' then some "\\\\"
  else if c = '\n' then if form.allowsLines then none else some "\\n"
  else if c = '\t' then some "\\t"
  else if c = '\r' then some "\\r"
  else if c = '\x08' then some "\\b"
  else if c = '\x0c' then some "\\f"
  else if needsEscape c then some ("\\u" ++ hexDigits c.toNat)
  else none

/-- The text between double quotes, where `quotes` quotes came just before: those
beyond the limit are escaped, and an escape starts the count again. -/
def escaped (form : Form) (quotes : Nat) : List Char → String
  | [] => ""
  | c :: rest =>
    if c = '"' then
      if quotes < form.quoteLimit then "\"" ++ escaped form (quotes + 1) rest
      else "\\\"" ++ escaped form 0 rest
    else
      ((escape? form c).getD c.toString) ++ escaped form 0 rest

def string (s : String) : String :=
  let text := s.toList
  let form := Form.best text
  form.delimiter ++ (if form.allowsLines && text.contains '\n' then "\n" else "") ++
    (if form.allowsEscapes then escaped form 0 text else s) ++ form.delimiter

/-! ## Sections -/

/-- A list of several items takes a line for each of them. -/
def entry : Entry → String
  | .string s => string s
  | .boolean b => if b then "true" else "false"
  | .strings [] => "[]"
  | .strings [item] => "[" ++ string item ++ "]"
  | .strings items => "[\n" ++ String.join (items.map fun i => "    " ++ string i ++ ",\n") ++ "]"

def sectionText (name : String) (entries : List (String × Entry)) : String :=
  "[" ++ name ++ "]\n" ++ String.join (entries.map fun (key, e) => key ++ " = " ++ entry e ++ "\n")

/-- Sections with an empty line between them.  Names and keys are plain words. -/
def write (sections : List (String × List (String × Entry))) : String :=
  "\n".intercalate (sections.map fun (name, entries) => sectionText name entries)

end EditorBlocks.Toml
