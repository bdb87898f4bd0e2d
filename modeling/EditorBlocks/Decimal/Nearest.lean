import EditorBlocks.Decimal.Shortest

/-!
# The nearest float of a decimal

A decimal text as its digits and its power of ten, and the float nearest to it.
A power that is far out of range is recognised before it is raised.
-/

namespace EditorBlocks.Decimal

/-- The float nearest to a decimal: infinite beyond the largest one. -/
def nearest (d : Decimal) : Float :=
  let place := digitCount d.digits + d.exponent
  if d.digits = 0 then 0.0
  else if 310 < place then 1.0 / 0.0
  else if place < -330 then 0.0
  else if 0 ≤ d.exponent then Float.ofScientific d.digits false d.exponent.toNat
  else Float.ofScientific d.digits true (-d.exponent).toNat

def ofDigits (digits : List Char) : Nat :=
  digits.foldl (fun n c => 10 * n + (c.toNat - '0'.toNat)) 0

/-- The power of ten after an `e`, with an optional sign. -/
def readExponent : List Char → Option Int
  | '+' :: digits => magnitudeOf digits
  | '-' :: digits => (magnitudeOf digits).map fun n => -n
  | digits => magnitudeOf digits
where
  magnitudeOf (digits : List Char) : Option Int :=
    if digits.isEmpty || !digits.all Char.isDigit then none else some (ofDigits digits : Int)

/-- Digits, a point with more digits, and an exponent; only the point or the
digits on one side of it may be missing. -/
def readUnsigned (text : List Char) : Option Decimal :=
  let whole := text.takeWhile Char.isDigit
  let rest := text.dropWhile Char.isDigit
  let (fraction, rest) := match rest with
    | '.' :: more => (more.takeWhile Char.isDigit, more.dropWhile Char.isDigit)
    | _ => ([], rest)
  if whole.isEmpty && fraction.isEmpty then none
  else
    let d : Decimal := ⟨ofDigits (whole ++ fraction), -(fraction.length : Int)⟩
    match rest with
    | [] => some d
    | c :: power =>
      if c = 'e' || c = 'E' then
        (readExponent power).map fun n => { d with exponent := d.exponent + n }
      else none

/-- The float nearest to a text such as `-1.5e3`. -/
def readFloat : List Char → Option Float
  | '+' :: text => (readUnsigned text).map nearest
  | '-' :: text => (readUnsigned text).map fun d => -(nearest d)
  | text => (readUnsigned text).map nearest

end EditorBlocks.Decimal
