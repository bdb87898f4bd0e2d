import EditorBlocks.Text.Blank

/-!
# Message templates

A template is literal text with numbered placeholders: `%1` stands for the
first argument of its slot.  `%%` is a percent sign, and a percent sign that
neither a digit nor another one follows stands for itself.
-/

namespace EditorBlocks.Template

inductive Token where
  | text (literal : String)
  | escape
  | placeholder (number : Nat)
  /-- A placeholder whose number does not fit 64 bits, with its digits. -/
  | oversized (digits : String)
deriving DecidableEq, Repr

def digitsValue (digits : List Char) : Nat :=
  digits.foldl (fun n c => 10 * n + (c.toNat - '0'.toNat)) 0

/-- Placeholder numbers are below this. -/
def numberLimit : Nat := 0x10000000000000000

def Token.ofDigits (digits : List Char) : Token :=
  let n := digitsValue digits
  if n < numberLimit then .placeholder n else .oversized (String.ofList digits)

/-- The literal text read so far, if there is any. -/
def literal (read : List Char) : List Token :=
  if read.isEmpty then [] else [.text (String.ofList read)]

mutual

/-- The tokens of what follows the literal text `read`. -/
def scanText (read : List Char) : List Char → List Token
  | [] => literal read
  | c :: rest => if c = '%' then scanPercent read rest else scanText (read ++ [c]) rest

/-- The tokens of what follows a percent sign. -/
def scanPercent (read : List Char) : List Char → List Token
  | [] => literal (read ++ ['%'])
  | c :: rest =>
    if c = '%' then literal read ++ .escape :: scanText [] rest
    else if c.isDigit then literal read ++ scanNumber [c] rest
    else scanText (read ++ ['%', c]) rest

/-- The tokens of what follows the digits of a placeholder. -/
def scanNumber (digits : List Char) : List Char → List Token
  | [] => [.ofDigits digits]
  | c :: rest =>
    if c.isDigit then scanNumber (digits ++ [c]) rest
    else if c = '%' then .ofDigits digits :: scanPercent [] rest
    else .ofDigits digits :: scanText [c] rest

end

def tokenize (template : String) : List Token := scanText [] template.toList

/-- The placeholder numbers in the order in which they appear. -/
def placeholders (tokens : List Token) : List Nat :=
  tokens.filterMap fun
    | .placeholder n => some n
    | _ => none

/-- Whether a row that is open or closed before a token is open after it.  Text
and fields open a row and inputs close it; blanks, and placeholders without a
known argument, leave it as it is. -/
def opensRow (isInput : Nat → Option Bool) (row : Bool) : Token → Bool
  | .text literal => row || !Text.isBlank literal
  | .escape => true
  | .oversized _ => row
  | .placeholder n =>
    match isInput n with
    | none => row
    | some input => !input

/-- A row that ends in text or a field gets a dummy input to hold it. -/
def impliesDummy (tokens : List Token) (isInput : Nat → Option Bool) : Bool :=
  tokens.foldl (opensRow isInput) false

end EditorBlocks.Template
