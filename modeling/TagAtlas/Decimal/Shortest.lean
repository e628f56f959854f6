/-! The shortest decimal that reads back as a given double.
A finite positive double is `m · 2^q`; the reals that round to it form an interval whose
ends belong to it when `m` is even. For one, two, … seventeen significant digits we look at
the two neighbours of the value on that decimal grid: the first grid with a neighbour in the
interval gives the digits, the nearer neighbour if both are in, the even one on an exact tie. -/
namespace TagAtlas.Decimal

/-- A decimal `digits · 10^exponent` whose digits have no trailing zero. -/
structure Digits where
  digits : Nat
  exponent : Int
  deriving Repr, BEq, DecidableEq

/-- A finite double split into its sign and the binary form `mantissa · 2^exponent`,
with the shape of its rounding interval. -/
structure Binary where
  negative : Bool
  mantissa : Nat
  exponent : Int
  /-- The lower gap is half the upper one: a power of two above the smallest normal. -/
  narrowBelow : Bool
  deriving Repr

/-- Decode the bits of a double. -/
def Binary.ofFloat (x : Float) : Binary :=
  let bits : Nat := x.toBits.toNat
  let negative : Bool := decide (bits ≥ Nat.pow 2 63)
  let biased : Nat := bits / Nat.pow 2 52 % Nat.pow 2 11
  let fraction : Nat := bits % Nat.pow 2 52
  if biased = 0 then
    { negative, mantissa := fraction, exponent := -1074, narrowBelow := false }
  else
    { negative, mantissa := fraction + Nat.pow 2 52, exponent := (biased : Int) - 1075
      narrowBelow := decide (fraction = 0) && decide (biased > 1) }

/-- Compare `a · 10^i` with `b · 2^j` exactly. -/
def compareScaled (a : Nat) (i : Int) (b : Nat) (j : Int) : Ordering :=
  compare (a * Nat.pow 10 i.toNat * Nat.pow 2 (-j).toNat) (b * Nat.pow 2 j.toNat * Nat.pow 10 (-i).toNat)

/-- The number of decimal digits of a positive number. -/
def digitCount (n : Nat) : Nat := (Nat.toDigits 10 n).length

/-- Remove trailing zeros, raising the exponent. -/
def Digits.normalize (d : Nat) (e : Int) (fuel : Nat := 400) : Digits :=
  match fuel with
  | 0 => ⟨d, e⟩
  | fuel + 1 => if d ≠ 0 ∧ d % 10 = 0 then normalize (d / 10) (e + 1) fuel else ⟨d, e⟩

/-- The least `t` with `10^t · m ≥ 2^s`, for `m > 0`, searched up to `fuel`. -/
def ceilLogRatio (m s : Nat) : Nat → Nat → Nat
  | 0, t => t
  | fuel + 1, t => if Nat.pow 10 t * m ≥ Nat.pow 2 s then t else ceilLogRatio m s fuel (t + 1)

/-- The decimal exponent `E` with `10^E ≤ m · 2^q < 10^(E+1)`, for `m > 0`. -/
def decimalExponent (m : Nat) (q : Int) : Int :=
  if q ≥ 0 then (digitCount (m * Nat.pow 2 q.toNat) : Int) - 1
  else
    let s := (-q).toNat
    if m ≥ Nat.pow 2 s then (digitCount (m / Nat.pow 2 s) : Int) - 1
    else
      -- below one: the least `t` with `10^(-t) ≤ m / 2^s` is `-E`
      -(ceilLogRatio m s 1100 1 : Int)

/-- The largest `d` with `d · 10^k ≤ m · 2^q`. -/
def floorOnGrid (m : Nat) (q k : Int) : Nat :=
  (m * Nat.pow 2 q.toNat * Nat.pow 10 (-k).toNat) / (Nat.pow 2 (-q).toNat * Nat.pow 10 k.toNat)

/-- The shortest digits for the finite positive value `mantissa · 2^exponent`. -/
def shortestOf (b : Binary) : Digits :=
  let m := b.mantissa
  let q := b.exponent
  -- boundaries scaled by 4: value `4m`, upper `4m + 2`, lower `4m - 2` or `4m - 1`
  let sq := q - 2
  let hiB := 4 * m + 2
  let loB := if b.narrowBelow then 4 * m - 1 else 4 * m - 2
  let inclusive := m % 2 = 0
  let inside (d : Nat) (k : Int) : Bool :=
    let lo := compareScaled d k loB sq
    let hi := compareScaled d k hiB sq
    (if inclusive then lo != .lt else lo == .gt) && (if inclusive then hi != .gt else hi == .lt)
  let top := decimalExponent m q
  let rec search : Nat → Nat → Digits
    | 0, _ => ⟨m, 0⟩
    | fuel + 1, n =>
      let k := top - (n : Int) + 1
      let dLo := floorOnGrid m q k
      let dHi := dLo + 1
      let loIn := inside dLo k
      let hiIn := inside dHi k
      if loIn && hiIn then
        -- twice the value against the midpoint `(2 dLo + 1) · 10^k`
        match compareScaled (2 * dLo + 1) k (2 * 4 * m) sq with
        | .gt => Digits.normalize dLo k
        | .lt => Digits.normalize dHi k
        | .eq => if dLo % 2 = 0 then Digits.normalize dLo k else Digits.normalize dHi k
      else if loIn then Digits.normalize dLo k
      else if hiIn then Digits.normalize dHi k
      else search fuel (n + 1)
  search 17 1

/-- The shortest digits of a finite nonzero double's magnitude. -/
def shortest (x : Float) : Digits := shortestOf (Binary.ofFloat x)

end TagAtlas.Decimal
