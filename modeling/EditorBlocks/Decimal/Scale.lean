/-!
# Scaling a significand by a power of ten

The quick way from decimal digits to a float: the significand becomes a float
and is then multiplied or divided by a power of ten.  Each step rounds, so the
last bit can differ from the nearest float when there are many digits or the
power is large.
-/

namespace EditorBlocks.Decimal

/-- The float nearest to `10 ^ n`, for `n` up to 308. -/
def tenPower (n : Nat) : Float := Float.ofScientific 1 false n

/-- `significand · 10 ^ exponent`, or `none` beyond the largest float.  Below
the least power of ten the division is done in steps of `10 ^ 308`, and two
steps take every significand to zero. -/
def scale (significand : Nat) (exponent : Int) : Option Float :=
  let x := Float.ofNat significand
  if 308 < exponent then
    if significand = 0 then some x else none
  else if 0 ≤ exponent then
    let y := x * tenPower exponent.toNat
    if y.isInf then none else some y
  else if -308 ≤ exponent then some (x / tenPower (-exponent).toNat)
  else if -616 ≤ exponent then
    some (x / tenPower 308 / tenPower (-exponent - 308).toNat)
  else some 0.0

end EditorBlocks.Decimal
