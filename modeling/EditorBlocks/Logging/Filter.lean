import EditorBlocks.Decimal.Nearest
import EditorBlocks.Logging.Pattern
import EditorBlocks.Text.Blank
import EditorBlocks.Text.Split

/-!
# Log filters

A filter is a list of directives between commas.  A directive names a target, or
a span and its fields in brackets, or both, and may end in an equals sign and a
level: `a::b`, `info`, `a[span{field=1}]=debug`.
-/

namespace EditorBlocks.LogFilter

/-- What is wrong with a directive. -/
inductive Fault where
  | malformed
  | unknownLevel
  | badPattern (fault : Pattern.Fault)
deriving DecidableEq, Repr

def Fault.message : Fault → String
  | malformed => "invalid filter directive"
  | unknownLevel =>
    "error parsing level filter: expected one of \"off\", \"error\", \"warn\", \"info\", " ++
      "\"debug\", \"trace\", or a number 0-5"
  | badPattern fault => "invalid field filter: " ++ fault.message

def levelNames : List String := ["off", "error", "warn", "info", "debug", "trace"]

/-- A number that stands for a level, with any zeros and a plus sign before it. -/
def isLevelNumber (text : List Char) : Bool :=
  let digits := if text.head? = some '+' then text.drop 1 else text
  !digits.isEmpty && digits.all Char.isDigit &&
    match digits.dropWhile (· = '0') with
    | [] => true
    | [d] => d ≤ '5'
    | _ => false

/-- A level by its number, or by its name in upper or lower case. -/
def isLevel (text : List Char) : Bool :=
  isLevelNumber text || levelNames.contains (Text.lowerAscii (String.ofList text))

/-- A directive as it is written, and without the blanks around it.  The parts of
`bare` are found first and then read in `written` at the same distance from its
start, so that a directive with blanks around it is read amiss. -/
structure Directive where
  written : List Char
  bare : List Char

namespace Directive

def ofText (text : String) : Directive := ⟨text.toList, (Text.trim text).toList⟩

/-- What is read for the last part of the bare directive. -/
def reading (d : Directive) (part : List Char) : List Char :=
  d.written.drop (d.bare.length - part.length)

/-- What follows an equals sign: a level, or nothing for the lowest one. -/
def checkLevel (d : Directive) (part : List Char) : Except Fault Unit :=
  let level := d.reading part
  if level.isEmpty || isLevel level then .ok () else .error .unknownLevel

/-- A number with a plus sign, which is no pattern. -/
def isSignedNumber : List Char → Bool
  | '+' :: rest =>
    (Decimal.readUnsigned rest).isSome ||
      ["inf", "infinity", "nan"].contains (Text.lowerAscii (String.ofList rest))
  | _ => false

/-- A field is a name, or a name and a value: a number or a pattern. -/
def checkField (field : List Char) : Except Fault Unit :=
  match field.dropWhile (· ≠ '=') with
  | [] => .ok ()
  | _ :: rest =>
    let value := rest.takeWhile (· ≠ '=')
    if isSignedNumber value then .ok () else (Pattern.check value).mapError .badPattern

/-- What follows the bracket that ends a span. -/
def checkAfterSpan (d : Directive) : List Char → Except Fault Unit
  | [] => .ok ()
  | '=' :: part => d.checkLevel part
  | _ => .error .malformed

/-- The rest of a span, after the brace that begins its fields. -/
def checkFields (d : Directive) (part : List Char) : Except Fault Unit := do
  let field := part.takeWhile (· ≠ '\x7d')
  match part.drop field.length with
  | [] => throw .malformed
  | _ :: rest =>
    if field.isEmpty then throw .malformed
    checkField ((d.reading part).take field.length)
    match rest with
    | ']' :: rest => d.checkAfterSpan rest
    | _ => throw .malformed

/-- The rest of a span, after its opening bracket. -/
def checkSpan (d : Directive) (part : List Char) : Except Fault Unit :=
  match part.dropWhile fun c => c ≠ ']' && c ≠ '\x7b' with
  | ']' :: rest => d.checkAfterSpan rest
  | '\x7b' :: rest => d.checkFields rest
  | _ => .error .malformed

/-- A target starts with a letter, a number or one of `-`, `:` and `_`. -/
def startsTarget (c : Char) : Bool := c = '-' || c = ':' || c = '_' || Text.isAlphanumeric c

def check (d : Directive) : Except Fault Unit :=
  match d.bare with
  | [] => .error .malformed
  | '[' :: rest => d.checkSpan rest
  | c :: rest =>
    if startsTarget c then
      match rest.dropWhile fun c => c ≠ '=' && c ≠ '[' with
      | '=' :: part => d.checkLevel part
      | '[' :: rest => d.checkSpan rest
      | _ => .ok ()
    else .error .malformed

end Directive

/-- The first fault of a filter; empty directives do not count. -/
def check (text : String) : Except Fault Unit :=
  ((Text.split ',' text).filter (! ·.isEmpty)).forM fun directive =>
    (Directive.ofText directive).check

end EditorBlocks.LogFilter
