import TagAtlas.Numeral.Real
/-! Decimal numbers read the quick way: the digits go into a 64-bit significand until the next
digit would overflow it, later integer digits only raise the power of ten and later fraction
digits are dropped; the exponent is a 32-bit integer that saturates. The double is then the
significand, rounded to a double, multiplied or divided once by a power of ten (itself the
nearest double); a power beyond 308 is reached by dividing by `1e308` first. The two roundings
can leave the result one unit away from the nearest double, and that is the rule here.

A product that overflows is out of range, while a quotient that underflows is zero. -/
namespace TagAtlas.Numeral

/-- The largest significand. -/
def significandLimit : Nat := Nat.pow 2 64 - 1

/-- Whether appending a digit to a significand would overflow 64 bits. -/
def appendOverflows (sig digit : Nat) : Bool :=
  sig ≥ significandLimit / 10 && (sig > significandLimit / 10 || digit > significandLimit % 10)

/-- A decimal as the quick reader keeps it: a significand below 2^64 and a power of ten. -/
structure ScaledDecimal where
  significand : Nat
  exponent : Int
  deriving Repr, BEq, Inhabited

/-- The largest 32-bit exponent. -/
def exponentLimit : Int := Int.pow 2 31 - 1

/-- Clamp an exponent to 32 bits. -/
def saturate (e : Int) : Int := max (-exponentLimit - 1) (min e exponentLimit)

/-- Keep the integer digits: once the significand is full, each later digit raises the power. -/
def keepInteger (acc : ScaledDecimal × Bool) (d : Nat) : ScaledDecimal × Bool :=
  let (x, full) := acc
  if full then ({ x with exponent := x.exponent + 1 }, true)
  else if appendOverflows x.significand d then ({ x with exponent := x.exponent + 1 }, true)
  else ({ x with significand := 10 * x.significand + d }, false)

/-- Keep the fraction digits: each kept digit lowers the power; once the significand is full,
the rest are dropped. -/
def keepFraction (acc : ScaledDecimal × Bool) (d : Nat) : ScaledDecimal × Bool :=
  let (x, full) := acc
  if full then acc
  else if appendOverflows x.significand d then (x, true)
  else ({ significand := 10 * x.significand + d, exponent := x.exponent - 1 }, false)

/-- The kept form of integer and fraction digits (the first integer digit given apart). -/
def ScaledDecimal.ofDigits (first : Nat) (integer fraction : List Nat) : ScaledDecimal :=
  let (x, _) := integer.foldl keepInteger (⟨first, 0⟩, false)
  (fraction.foldl keepFraction (x, false)).1

/-- The nearest double to a power of ten. -/
def powerOfTen (k : Nat) : Float := ofDecimal 1 k

/-- The double of a kept decimal, or none when it overflows. -/
def ScaledDecimal.toFloat? (x : ScaledDecimal) : Option Float :=
  let rec go : Nat → Float → Int → Option Float
    | 0, f, _ => some f
    | fuel + 1, f, e =>
      if e.natAbs ≤ 308 then
        if e ≥ 0 then
          let g := f * powerOfTen e.natAbs
          if g.isInf then none else some g
        else some (f / powerOfTen e.natAbs)
      else if f == 0.0 then some f
      else if e ≥ 0 then none
      else go fuel (f / powerOfTen 308) (e + 308)
  go (x.exponent.natAbs / 308 + 2) (ofDecimal x.significand 0) x.exponent

/-- Add a written exponent to a kept decimal, saturating. -/
def ScaledDecimal.shift (x : ScaledDecimal) (e : Int) : ScaledDecimal :=
  { x with exponent := saturate (x.exponent + e) }

end TagAtlas.Numeral
