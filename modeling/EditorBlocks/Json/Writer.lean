import EditorBlocks.Json.Basic
import EditorBlocks.Decimal.Layout

/-!
# JSON text

Writing a value on one line, or indented by two spaces.  Members stand in the
order of the object.  A string escapes the quote, the backslash and the control
characters below a space; every other character stands for itself.
-/

namespace EditorBlocks.Json

def hexDigit (n : Nat) : Char := (Nat.toDigits 16 n).headD '0'

def escapeChar (c : Char) : String :=
  if c = '"' then "\\\""
  else if c = '\\' then "\\\\"
  else if c = '\x08' then "\\b"
  else if c = '\x0c' then "\\f"
  else if c = '\n' then "\\n"
  else if c = '\r' then "\\r"
  else if c = '\t' then "\\t"
  else if c.toNat < 32 then
    "\\u00" ++ String.ofList [hexDigit (c.toNat / 16), hexDigit (c.toNat % 16)]
  else c.toString

def quote (s : String) : String :=
  "\"" ++ s.foldl (fun text c => text ++ escapeChar c) "" ++ "\""

def numberText (layout : Decimal.Layout) : Number → String
  | .int n => toString n
  | .float x => layout.float x

mutual

/-- The value on one line without blanks. -/
def compact : Json → String
  | .null => "null"
  | .bool b => if b then "true" else "false"
  | .number n => numberText .json n
  | .string s => quote s
  | .list items => "[" ++ compactItems items ++ "]"
  | .object members => "\x7b" ++ compactMembers members ++ "\x7d"

def compactItems : List Json → String
  | [] => ""
  | [v] => compact v
  | v :: w :: rest => compact v ++ "," ++ compactItems (w :: rest)

def compactMembers : List (String × Json) → String
  | [] => ""
  | [(k, v)] => quote k ++ ":" ++ compact v
  | (k, v) :: m :: rest => quote k ++ ":" ++ compact v ++ "," ++ compactMembers (m :: rest)

end

def indentation (depth : Nat) : String := String.ofList (List.replicate (2 * depth) ' ')

mutual

/-- The value over several lines, `depth` levels deep; empty lists and objects
stay on one line. -/
def indented (depth : Nat) : Json → String
  | .null => "null"
  | .bool b => if b then "true" else "false"
  | .number n => numberText .json n
  | .string s => quote s
  | .list [] => "[]"
  | .list (v :: rest) =>
    "[\n" ++ indentedItems (depth + 1) (v :: rest) ++ "\n" ++ indentation depth ++ "]"
  | .object [] => "\x7b\x7d"
  | .object (m :: rest) =>
    "\x7b\n" ++ indentedMembers (depth + 1) (m :: rest) ++ "\n" ++ indentation depth ++ "\x7d"

def indentedItems (depth : Nat) : List Json → String
  | [] => ""
  | [v] => indentation depth ++ indented depth v
  | v :: w :: rest =>
    indentation depth ++ indented depth v ++ ",\n" ++ indentedItems depth (w :: rest)

def indentedMembers (depth : Nat) : List (String × Json) → String
  | [] => ""
  | [(k, v)] => indentation depth ++ quote k ++ ": " ++ indented depth v
  | (k, v) :: m :: rest =>
    indentation depth ++ quote k ++ ": " ++ indented depth v ++ ",\n" ++
      indentedMembers depth (m :: rest)

end

/-- The value over several lines, indented by two spaces. -/
def pretty (v : Json) : String := indented 0 v

end EditorBlocks.Json
