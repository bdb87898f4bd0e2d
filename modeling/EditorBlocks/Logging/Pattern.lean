import EditorBlocks.Text.Alphanumeric
import EditorBlocks.Text.Hex

/-!
# Patterns

The regular expressions that the values of fields are matched with.  What counts
here is which texts are patterns, and not what they match.  A pattern has no
counted repetitions, because a filter has its own use for the closing brace.
-/

namespace EditorBlocks.LogFilter.Pattern

/-- What is wrong with a pattern. -/
inductive Fault where
  | malformed
  /-- The edges of words are defined, but cannot be looked for. -/
  | wordEdge
deriving DecidableEq, Repr

def Fault.message : Fault → String
  | malformed => "error building NFA"
  | wordEdge =>
    "unsupported regex feature for DFAs: cannot build DFAs for regexes with Unicode word " ++
      "boundaries; switch to ASCII word boundaries, or heuristically enable Unicode word " ++
      "boundaries or use a different regex engine"

/-- What an escape stands for. -/
inductive Escape where
  | character (c : Char)
  /-- Any one of several characters. -/
  | characters
  /-- A place between characters. -/
  | place
  | wordEdge
deriving DecidableEq, Repr

/-- The character with a number of so many hexadecimal digits. -/
def codePoint (count : Nat) (text : List Char) : Option (Escape × List Char) := do
  let digits := text.take count
  let n ← Text.hexNumber? digits
  if digits.length = count ∧ n.isValidChar then
    some (.character (Char.ofNat n), text.drop count)
  else none

/-- The characters that a letter after a backslash stands for. -/
def controls : List (Char × Char) :=
  [('a', '\x07'), ('f', '\x0c'), ('t', '\t'), ('n', '\n'), ('r', '\r'), ('v', '\x0b')]

/-- The first letters of the names of the categories of characters. -/
def categories : List Char := "clmnpsz".toList

/-- What follows a backslash.  Anything in ASCII but letters, digits and angle
brackets stands for itself. -/
def escape : List Char → Option (Escape × List Char)
  | [] => none
  | 'x' :: rest => codePoint 2 rest
  | 'u' :: rest => codePoint 4 rest
  | 'U' :: rest => codePoint 8 rest
  | 'p' :: c :: rest | 'P' :: c :: rest =>
    if categories.contains c.toLower then some (.characters, rest) else none
  | c :: rest =>
    if "dswDSW".toList.contains c then some (.characters, rest)
    else if "Az".toList.contains c then some (.place, rest)
    else if "bB<>".toList.contains c then some (.wordEdge, rest)
    else
      match controls.lookup c with
      | some control => some (.character control, rest)
      | none => if c.isAlphanum || 128 ≤ c.toNat then none else some (.character c, rest)

/-! ## Classes of characters -/

def classNames : List String :=
  ["alnum", "alpha", "ascii", "blank", "cntrl", "digit", "graph", "lower", "print", "punct",
    "space", "upper", "word", "xdigit"]

/-- The rest after a class by its name, such as `:alpha:]`, whose bracket is read. -/
def namedClass? : List Char → Option (List Char)
  | ':' :: text =>
    let text := if text.head? = some '^' then text.drop 1 else text
    match text.dropWhile (· ≠ ':') with
    | ':' :: ']' :: rest =>
      if classNames.contains (String.ofList (text.takeWhile (· ≠ ':'))) then some rest else none
    | _ => none
  | _ => none

/-- The rest after what has a meaning of its own at the start of a class: a caret,
and then either dashes or a closing bracket that stand for themselves. -/
def classStart (text : List Char) : List Char :=
  let text := if text.head? = some '^' then text.drop 1 else text
  match text with
  | ']' :: rest => rest
  | _ => text.dropWhile (· = '-')

/-- An item of a class: a character, or `none` for several. -/
def classItem : List Char → Option (Option Char × List Char)
  | [] => none
  | '\\' :: rest =>
    match escape rest with
    | some (.character c, rest) => some (some c, rest)
    | some (.characters, rest) => some (none, rest)
    | _ => none
  | c :: rest => some (some c, rest)

/-- The rest after an item, or after two characters in order with a dash between
them. -/
def classRange (text : List Char) : Option (List Char) := do
  let (first, rest) ← classItem text
  match rest with
  | '-' :: ']' :: _ | '-' :: '-' :: _ => some rest
  | '-' :: rest =>
    let (last, rest) ← classItem rest
    if (← first) ≤ (← last) then some rest else none
  | _ => some rest

/-- The rest after a class that has begun, and after the ones around it. -/
def classRest : (fuel around : Nat) → List Char → Option (List Char)
  | 0, _, _ | _, _, [] => none
  | fuel + 1, around, '[' :: rest =>
    match namedClass? rest with
    | some rest => classRest fuel around rest
    | none => classRest fuel (around + 1) (classStart rest)
  | fuel + 1, around, ']' :: rest =>
    if around = 0 then some rest else classRest fuel (around - 1) rest
  | fuel + 1, around, '&' :: '&' :: rest
  | fuel + 1, around, '-' :: '-' :: rest
  | fuel + 1, around, '~' :: '~' :: rest => classRest fuel around rest
  | fuel + 1, around, text => do classRest fuel around (← classRange text)

/-! ## Groups -/

/-- What is known after the first part of a pattern. -/
structure State where
  /-- How many groups are open. -/
  depth : Nat
  /-- There is something that a repetition can be about. -/
  isRepeatable : Bool
  /-- The names of the groups. -/
  names : List (List Char)
  hasWordEdge : Bool
deriving DecidableEq, Repr

namespace State

def start : State := ⟨0, false, [], false⟩

/-- After a part that can be repeated. -/
def pastPart (s : State) : State := { s with isRepeatable := true }

def pastEscape (s : State) (escape : Escape) : State :=
  { s.pastPart with hasWordEdge := s.hasWordEdge || escape = .wordEdge }

def openGroup (s : State) : State := { s with depth := s.depth + 1, isRepeatable := false }

def closeGroup? (s : State) : Option State :=
  if s.depth = 0 then none else some { s with depth := s.depth - 1, isRepeatable := true }

end State

def isGroupName : List Char → Bool
  | [] => false
  | c :: rest =>
    (c = '_' || (Text.isAlphanumeric c && !c.isDigit)) &&
      rest.all fun c => ['_', '.', '[', ']'].contains c || Text.isAlphanumeric c

/-- A group whose name comes next; no two groups have the same one. -/
def namedGroup (s : State) (text : List Char) : Option (State × List Char) :=
  let name := text.takeWhile (· ≠ '>')
  match text.dropWhile (· ≠ '>') with
  | _ :: rest =>
    if isGroupName name && !s.names.contains name then
      some ({ s.openGroup with names := name :: s.names }, rest)
    else none
  | [] => none

/-- Flags, of which some may follow one dash and be unset. -/
def areFlags (flags : List Char) : Bool :=
  flags.all ("-imsUuRx".toList.contains ·) && flags.eraseDups = flags &&
    flags.getLast? ≠ some '-'

/-- A group with flags, or flags for the rest of the group around them. -/
def flagGroup (s : State) (text : List Char) : Option (State × List Char) :=
  let flags := text.takeWhile fun c => c ≠ ':' && c ≠ ')'
  if !areFlags flags then none
  else
    match text.drop flags.length with
    | ':' :: rest => some (s.openGroup, rest)
    | ')' :: rest => if flags.isEmpty then none else some ({ s with isRepeatable := false }, rest)
    | _ => none

/-- What follows the parenthesis that begins a group. -/
def group (s : State) : List Char → Option (State × List Char)
  | '?' :: 'P' :: '<' :: rest | '?' :: '<' :: rest => namedGroup s rest
  | '?' :: rest => flagGroup s rest
  | rest => some (s.openGroup, rest)

/-! ## Patterns -/

def isRepetition (c : Char) : Bool := c = '*' || c = '+' || c = '?'

/-- Reads on to the end of a pattern. -/
def scan : (fuel : Nat) → State → List Char → Option State
  | 0, _, _ => none
  | _, s, [] => some s
  | fuel + 1, s, c :: rest =>
    if c = '(' then do
      let (s, rest) ← group s rest
      scan fuel s rest
    else if c = ')' then do scan fuel (← s.closeGroup?) rest
    else if c = '|' then scan fuel { s with isRepeatable := false } rest
    else if c = '[' then do scan fuel s.pastPart (← classRest fuel 0 (classStart rest))
    else if c = '\\' then do
      let (escape, rest) ← escape rest
      scan fuel (s.pastEscape escape) rest
    else if c = '\x7b' then none
    else if isRepetition c then
      if s.isRepeatable then scan fuel s (if rest.head? = some '?' then rest.drop 1 else rest)
      else none
    else scan fuel s.pastPart rest

/-- Every step of a scan takes a character, so one more than there are is enough. -/
def check (text : List Char) : Except Fault Unit :=
  match scan (text.length + 1) .start text with
  | none => .error .malformed
  | some s =>
    if s.depth ≠ 0 then .error .malformed
    else if s.hasWordEdge then .error .wordEdge
    else .ok ()

end EditorBlocks.LogFilter.Pattern
