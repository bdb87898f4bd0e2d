import EditorBlocks.Decimal.Shortest

/-!
# Layouts of decimal numbers

How the shortest digits of a float are set out as text.  A layout says from
where to where the decimal point is written in its place, how an exponent is
marked otherwise, whether a whole number keeps a point, and which of two equally
near decimals is written.
-/

namespace EditorBlocks.Decimal

structure Layout where
  /-- The places of the point that are written positionally, all if `none`:
  `some (a, b)` stands for `10 ^ a ≤ x < 10 ^ b`. -/
  positional : Option (Int × Int)
  /-- A whole number ends in `.0`. -/
  keepsPoint : Bool
  /-- A positive exponent is written with a plus sign. -/
  plusSign : Bool
  tie : Tie
deriving DecidableEq, Repr

namespace Layout

/-- Floats in a JSON text: `10.0`, `1e+21`, `1e-7`. -/
def json : Layout := ⟨some (-5, 16), true, true, .toEven⟩

/-- Floats in a YAML text: `10.0`, `1e21`, `1e-7`. -/
def yaml : Layout := ⟨some (-5, 16), true, false, .toEven⟩

/-- Floats in a message: never an exponent and no idle `.0`. -/
def message : Layout := ⟨none, false, false, .up⟩

def zeros (n : Nat) : String := String.ofList (List.replicate n '0')

/-- The digits with the point after the first `place` of them. -/
def positionalText (layout : Layout) (digits : String) (place : Int) : String :=
  if place ≤ 0 then "0." ++ zeros (-place).toNat ++ digits
  else if digits.length ≤ place.toNat then
    digits ++ zeros (place.toNat - digits.length) ++ (if layout.keepsPoint then ".0" else "")
  else
    String.ofList (digits.toList.take place.toNat) ++ "." ++
      String.ofList (digits.toList.drop place.toNat)

/-- One digit, the others behind a point, and the power of ten. -/
def scientificText (layout : Layout) (digits : String) (place : Int) : String :=
  let power := place - 1
  let head := String.ofList (digits.toList.take 1)
  let tail := digits.toList.drop 1
  let sign := if power < 0 then "-" else if layout.plusSign then "+" else ""
  head ++ (if tail.isEmpty then "" else "." ++ String.ofList tail) ++ "e" ++ sign ++
    toString power.natAbs

/-- The text of a magnitude. -/
def text (layout : Layout) (d : Decimal) : String :=
  if d.digits = 0 then (if layout.keepsPoint then "0.0" else "0")
  else
    let digits := toString d.digits
    let place := d.exponent + digits.length
    match layout.positional with
    | none => layout.positionalText digits place
    | some (low, high) =>
      if low < place ∧ place ≤ high then layout.positionalText digits place
      else layout.scientificText digits place

/-- The text of a finite float. -/
def float (layout : Layout) (x : Float) : String :=
  let b := Binary.ofFloat x
  (if b.negative then "-" else "") ++ layout.text (shortest layout.tie b)

end Layout

end EditorBlocks.Decimal
