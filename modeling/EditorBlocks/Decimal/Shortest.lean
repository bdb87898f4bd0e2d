/-!
# Shortest decimals of a binary float

A finite 64-bit float stands for the whole interval of reals that round to it.
Among the decimals in that interval, the ones with the fewest digits are
shortest, and of those the nearest to the float is taken.  Where two are equally
near, the caller says which.  All arithmetic is on natural numbers, so the digits
are those of the float itself and not of another rounding.
-/

namespace EditorBlocks

def powerOfTwo (n : Nat) : Nat := Nat.pow 2 n

def powerOfTen (n : Nat) : Nat := Nat.pow 10 n

/-- `digits · 10 ^ exponent`, with no zero at the end of `digits`. -/
structure Decimal where
  digits : Nat
  exponent : Int
deriving DecidableEq, Repr

/-- The magnitude `mantissa · 2 ^ exponent` of a finite float, and its sign. -/
structure Binary where
  negative : Bool
  mantissa : Nat
  exponent : Int
deriving DecidableEq, Repr

namespace Binary

/-- The value of the hidden leading one. -/
def hiddenOne : Nat := powerOfTwo 52

/-- The fields of the 64-bit pattern: a sign, eleven bits of exponent, and a
fraction with a hidden leading one unless the exponent field is zero. -/
def ofBits (bits : Nat) : Binary :=
  let field : Nat := bits / hiddenOne % 2048
  let fraction : Nat := bits % hiddenOne
  { negative := bits / powerOfTwo 63 % 2 = 1
    mantissa := if field = 0 then fraction else fraction + hiddenOne
    exponent := if field = 0 then -1074 else (field : Int) - 1075 }

def ofFloat (x : Float) : Binary := ofBits x.toBits.toNat

/-- The neighbour below is half as far away at a power of two. -/
def belowIsClose (b : Binary) : Bool :=
  b.mantissa = hiddenOne && -1074 < b.exponent

end Binary

namespace Decimal

/-- Which of two equally near decimals is taken. -/
inductive Tie where
  /-- The one with the even last digit. -/
  | toEven
  /-- The larger one. -/
  | up
deriving DecidableEq, Repr

def digitCount (n : Nat) : Nat := (Nat.toDigits 10 n).length

/-- The `p` with `10 ^ (p - 1) ≤ num / den < 10 ^ p`. -/
def magnitude (num den : Nat) : Int :=
  if den ≤ num then digitCount (num / den)
  else
    let d := digitCount (den / num)
    if num * powerOfTen (d - 1) = den then 2 - d else 1 - d

/-- `n · 10 ^ e` with the zeros at the end of `n` moved into the exponent. -/
def trim : Nat → Nat → Int → Decimal
  | 0, n, e => ⟨n, e⟩
  | fuel + 1, n, e => if n ≠ 0 ∧ n % 10 = 0 then trim fuel (n / 10) (e + 1) else ⟨n, e⟩

/-- An interval of reals around `mid`, over the common denominator `den`. -/
structure Interval where
  low : Nat
  mid : Nat
  high : Nat
  den : Nat
  closed : Bool

namespace Interval

/-- The reals that round to a float: half a unit on either side, a quarter
below a power of two, with the ends when the mantissa is even. -/
def ofBinary (b : Binary) : Interval :=
  let scale := fun n : Nat => if b.exponent < 2 then n else n * powerOfTwo (b.exponent - 2).toNat
  { low := scale (4 * b.mantissa - (if b.belowIsClose then 1 else 2))
    mid := scale (4 * b.mantissa)
    high := scale (4 * b.mantissa + 2)
    den := if b.exponent < 2 then powerOfTwo (2 - b.exponent).toNat else 1
    closed := b.mantissa % 2 = 0 }

/-- Whether `n · 10 ^ e` lies in the interval. -/
def holds (i : Interval) (n : Nat) (e : Int) : Bool :=
  let left := n * powerOfTen e.toNat * i.den
  let right := fun end_ : Nat => end_ * powerOfTen (-e).toNat
  if i.closed then right i.low ≤ left && left ≤ right i.high
  else right i.low < left && left < right i.high

/-- The neighbours of `mid` on the grid of multiples of `10 ^ e`, the nearer
one first. -/
def neighbours (i : Interval) (tie : Tie) (e : Int) : List Nat :=
  let num := i.mid * powerOfTen (-e).toNat
  let den := i.den * powerOfTen e.toNat
  let below := num / den
  let rest := 2 * (num % den)
  if rest < den ∨ (rest = den ∧ tie = .toEven ∧ below % 2 = 0) then [below, below + 1] else [below + 1, below]

/-- The best decimal on the grid of `10 ^ e`, if that grid meets the interval. -/
def onGrid (i : Interval) (tie : Tie) (e : Int) : Option Decimal :=
  (i.neighbours tie e).find? (fun n => i.holds n e) |>.map (trim 20 · e)

end Interval

/-- The shortest decimal that reads back as the float; zero is `0 · 10 ^ 0`.
Seventeen digits always suffice. -/
def shortest (tie : Tie) (b : Binary) : Decimal :=
  if b.mantissa = 0 then ⟨0, 0⟩
  else
    let i := Interval.ofBinary b
    let p := magnitude i.mid i.den
    ((List.range 17).findSome? fun n : Nat => i.onGrid tie (p - (n + 1))).getD ⟨0, 0⟩

end Decimal

end EditorBlocks
