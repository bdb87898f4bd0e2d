/-!
# Blank text

The characters with the Unicode property `White_Space`, and texts that hold
nothing else.
-/

namespace EditorBlocks.Text

def isBlankChar (c : Char) : Bool :=
  let n := c.toNat
  (9 ≤ n && n ≤ 13) || n = 0x20 || n = 0x85 || n = 0xa0 || n = 0x1680 ||
    (0x2000 ≤ n && n ≤ 0x200a) || n = 0x2028 || n = 0x2029 || n = 0x202f || n = 0x205f ||
    n = 0x3000

def isBlank (s : String) : Bool := s.toList.all isBlankChar

/-- The text without the blanks at its ends. -/
def trim (s : String) : String :=
  String.ofList ((((s.toList.dropWhile isBlankChar).reverse).dropWhile isBlankChar).reverse)

/-- ASCII letters in lower case; every other character stays. -/
def lowerAscii (s : String) : String := s.map Char.toLower

end EditorBlocks.Text
