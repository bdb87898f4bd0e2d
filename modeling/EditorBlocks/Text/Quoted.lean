import EditorBlocks.Text.Hidden

/-!
# Quoted text

A text between double quotes in which every character can be seen: quotes and
backslashes are escaped, and hidden characters are written by their numbers.
-/

namespace EditorBlocks.Text

def escapeChar (c : Char) : String :=
  if c = '\x00' then "\\0"
  else if c = '\t' then "\\t"
  else if c = '\n' then "\\n"
  else if c = '\r' then "\\r"
  else if c = '"' then "\\\""
  else if c = '\\' then "\\\\"
  else if isHidden c then "\\u\x7b" ++ String.ofList (Nat.toDigits 16 c.toNat) ++ "\x7d"
  else c.toString

def quoted (s : String) : String :=
  "\"" ++ s.foldl (fun text c => text ++ escapeChar c) "" ++ "\""

end EditorBlocks.Text
