/-!
# Characters of YAML

The classes of characters that structure a YAML text: blanks, line breaks,
letters of names, and the characters that may stand in a text at all.
-/

namespace EditorBlocks.Yaml

def nextLine : Char := '\u0085'
def lineSeparator : Char := '\u2028'
def paragraphSeparator : Char := '\u2029'
def byteOrderMark : Char := '\ufeff'

def byteCount (text : List Char) : Nat := text.foldl (fun n c => n + c.utf8Size) 0

def isBlank (c : Char) : Bool := c = ' ' || c = '\t'

def isBreak (c : Char) : Bool :=
  c = '\n' || c = '\r' || c = nextLine || c = lineSeparator || c = paragraphSeparator

def isBlankOrBreak (c : Char) : Bool := isBlank c || isBreak c

/-- Letters, digits and signs of anchors, handles and directives. -/
def isWord (c : Char) : Bool := c.isAlphanum || c = '_' || c = '-'

/-- Brackets and commas, which structure flow collections. -/
def isFlowIndicator (c : Char) : Bool :=
  c = ',' || c = '[' || c = ']' || c = '\x7b' || c = '\x7d'

/-- Characters that may stand in a text. -/
def isAllowed (c : Char) : Bool :=
  let n := c.toNat
  n = 9 || n = 10 || n = 13 || (0x20 ≤ n && n ≤ 0x7e) || n = 0x85 ||
    (0xa0 ≤ n && n ≤ 0xfffd) || 0x10000 ≤ n

/-- The end of the text, a blank or a break. -/
def endsWord : List Char → Bool
  | [] => true
  | c :: _ => isBlankOrBreak c

end EditorBlocks.Yaml
