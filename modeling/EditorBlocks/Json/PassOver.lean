import EditorBlocks.Json.Cursor

/-!
# Passing over JSON values

What is not wanted from a text is only checked for its form: a number may be too
large, an escape may be half of a pair, and there is no limit to nesting.
-/

namespace EditorBlocks.Json.Reader

/-! ## Numbers and strings -/

/-- At least one digit, with a fault at whatever stands there instead. -/
def passDigits : Reader Unit := do
  if (← takeWhile Char.isDigit).isEmpty then failAhead .invalidNumber

def passExponent : Reader Unit := do
  match ← peek with
  | some 'e' | some 'E' =>
    skip
    match ← peek with
    | some '+' | some '-' => skip
    | _ => pure ()
    passDigits
  | _ => pure ()

/-- A number without its sign. -/
def passNumber : Reader Unit := do
  match ← peek with
  | some '0' =>
    skip
    match ← peek with
    | some c => if c.isDigit then failAhead .invalidNumber
    | none => pure ()
  | _ => passDigits
  match ← peek with
  | some '.' =>
    skip
    passDigits
  | _ => pure ()
  passExponent

def passEscape : Reader Unit := do
  match ← peek with
  | none => failHere .endInString
  | some 'u' =>
    skip
    let _ ← hexEscape
  | some c =>
    if ['"', '\\', '/', 'b', 'f', 'n', 'r', 't'].contains c then skip
    else failAhead .invalidEscape

/-- The rest of a string, after its opening quote. -/
def passString : Nat → Reader Unit
  | 0 => failHere .endInString
  | fuel + 1 => do
    let _ ← takeWhile isPlain
    match ← peek with
    | none => failHere .endInString
    | some '"' => skip
    | some '\\' =>
      skip
      passEscape
      passString fuel
    | some _ => failHere .controlCharacter

/-! ## Values

Each call takes at least one character, so the length of the text bounds the
number of calls. -/

mutual

def passValue : Nat → Reader Unit
  | 0 => failHere .endInValue
  | fuel + 1 => do
    match ← peekPastBlanks with
    | none => failAhead .endInValue
    | some 'n' => skip; literal () ['u', 'l', 'l']
    | some 't' => skip; literal () ['r', 'u', 'e']
    | some 'f' => skip; literal () ['a', 'l', 's', 'e']
    | some '-' => skip; passNumber
    | some '"' => skip; passString fuel
    | some '[' => skip; passItems true fuel
    | some '\x7b' => skip; passMembers true fuel
    | some c => if c.isDigit then passNumber else failAhead .valueExpected

/-- The items up to the closing bracket; `first` when no item came before. -/
def passItems (first : Bool) : Nat → Reader Unit
  | 0 => failHere .endInList
  | fuel + 1 => do
    match ← peekPastBlanks with
    | none => failAhead .endInList
    | some ']' => skip
    | some c =>
      if !first then
        if c ≠ ',' then failAhead .listCommaOrEndExpected
        skip
      passValue fuel
      passItems false fuel

def passMembers (first : Bool) : Nat → Reader Unit
  | 0 => failHere .endInObject
  | fuel + 1 => do
    match ← peekPastBlanks with
    | none => failAhead .endInObject
    | some '\x7d' => skip
    | some c =>
      if !first then
        if c ≠ ',' then failAhead .objectCommaOrEndExpected
        skip
      match ← peekPastBlanks with
      | none => failAhead .endInObject
      | some '"' => skip
      | some _ => failAhead .keyNotString
      passString fuel
      match ← peekPastBlanks with
      | none => failAhead .endInObject
      | some ':' => skip
      | some _ => failAhead .colonExpected
      passValue fuel
      passMembers false fuel

end

end EditorBlocks.Json.Reader
