/-! The thresholds of one query, derived from the consolidation knob `c ∈ [0, 1]`: a low `c`
gives many small, strict sectors and a high `c` few large, loose ones. Each threshold is a
rounded affine function of `c` clamped to a range; an override replaces it, clamped to a
wider range. -/
namespace TagAtlas

/-- The clamp of a double to `[lo, hi]`: below `lo` gives `lo`, above `hi` gives `hi`, else the
value itself (so a negative zero stays). -/
def clampFloat (x lo hi : Float) : Float :=
  let x := if x < lo then lo else x
  if x > hi then hi else x

/-- The clamp of an integer to `[lo, hi]`. -/
def clampInt (x lo hi : Int) : Int := max lo (min x hi)

/-- The clamp of a natural number to `[lo, hi]`. -/
def clampNat (x lo hi : Nat) : Nat := max lo (min x hi)

/-- A double rounded half away from zero, as a natural number: negative values and not-a-number
give zero, and values past the largest 64-bit word give that word. It reads the double's
mantissa `m` and exponent `e` and rounds `m · 2^e` exactly. -/
def roundNat (x : Float) : Nat :=
  match x.toModel.unpack with
  | .finite .positive m e _ =>
    -- below one unit, `⌊m / 2^k + 1/2⌋ = ⌊(2m + 2^k) / 2^(k+1)⌋` for `k = -e`
    let n := if 0 ≤ e then m <<< e.toNat else ((m <<< 1) + (1 <<< (-e).toNat)) >>> ((-e).toNat + 1)
    min n (UInt64.size - 1)
  | .infinity .positive => UInt64.size - 1
  | _ => 0

/-- Explicit replacements for the derived thresholds. -/
structure Overrides where
  minSupport : Option Int := none
  minPair : Option Int := none
  edgeThreshold : Option Float := none
  k : Option Int := none
  maxSets : Option Int := none
  maxSetSize : Option Int := none
  maxSeedCores : Option Int := none
  macroSize : Option Int := none
  maxSetsTotal : Option Int := none
  triadScan : Option Int := none
  deriving Inhabited

/-- The thresholds of one query. -/
structure Tuning where
  consolidation : Float
  /-- Least support of a candidate tag. -/
  minSupport : Nat
  /-- Least co-occurrence of an edge or a triad. -/
  minPair : Nat
  /-- Least association score of an edge. -/
  edgeThreshold : Float
  /-- Neighbours kept per tag. -/
  k : Nat
  /-- Sectors of the tagsets view. -/
  maxSets : Nat
  /-- Tags shown per sector of the tagsets view. -/
  maxSetSize : Nat
  /-- Sectors of the single view. -/
  maxSetsSingle : Nat
  /-- Seeds of the overlap view. -/
  maxSeedCores : Nat
  /-- Tags per macro core. -/
  macroSize : Nat
  /-- Tag sets of the overlap view. -/
  maxSetsTotal : Nat
  /-- Edges scanned per tag for triads. -/
  triadScan : Nat
  deriving Inhabited

namespace Tuning

/-- The override, clamped to `[lo, hi]`, or the derived value. -/
def pick (value : Option Int) (derived : Nat) (lo hi : Int) : Nat :=
  match value with
  | some v => (clampInt v lo hi).toNat
  | none => derived

/-- Consolidation at or below which every tag is its own component. -/
def strictConsolidation : Float := 0.01
/-- Consolidation at or above which all tags form one component. -/
def megaConsolidation : Float := 0.99

/-- The thresholds for a consolidation (not finite counts as zero) and overrides. -/
def derive (consolidation : Float) (o : Overrides) : Tuning :=
  let c := if consolidation.isNaN || consolidation.isInf then 0.0 else clampFloat consolidation 0.0 1.0
  let loose := 1.0 - c
  let minSupport := max (roundNat (3.0 + 12.0 * loose)) 2
  let minPair := max (roundNat (2.0 + 8.0 * loose)) 2
  let edge := 0.35 - 0.30 * c
  let edge := if edge < 0.05 then 0.05 else edge
  let k := clampNat (roundNat (4.0 + 14.0 * c)) 3 24
  let maxSets := clampNat (roundNat (12.0 + 48.0 * loose)) 6 80
  let maxSetSize := clampNat (roundNat (6.0 + 6.0 * c)) 4 14
  let maxSetsSingle := clampNat (roundNat (18.0 + 90.0 * loose)) 6 120
  let maxSeedCores := clampNat (roundNat (10.0 + 12.0 * c)) 6 30
  let macroSize := clampNat (roundNat (4.0 + 2.0 * c)) 3 6
  let maxSetsTotal := clampNat (roundNat (100.0 + 120.0 * loose)) 80 220
  let triadScan := clampNat (roundNat (6.0 + 6.0 * c)) 4 12
  { consolidation := c
    minSupport := pick o.minSupport minSupport 2 10000
    minPair := pick o.minPair minPair 2 10000
    edgeThreshold :=
      match o.edgeThreshold with
      | some v => if v.isNaN || v.isInf then edge else clampFloat v (-1.0) 1.0
      | none => edge
    k := pick o.k k 1 64
    maxSets := pick o.maxSets maxSets 1 200
    maxSetSize := pick o.maxSetSize maxSetSize 1 32
    maxSetsSingle
    maxSeedCores := pick o.maxSeedCores maxSeedCores 1 60
    macroSize := pick o.macroSize macroSize 3 10
    maxSetsTotal := pick o.maxSetsTotal maxSetsTotal 10 400
    triadScan := pick o.triadScan triadScan 1 64 }

/-- Whether every tag stands alone. -/
def forcesSingletons (t : Tuning) : Bool := t.consolidation ≤ strictConsolidation

/-- Whether all candidate tags form one component. -/
def forcesSingleComponent (t : Tuning) : Bool := t.consolidation ≥ megaConsolidation

theorem pick_none (derived : Nat) (lo hi : Int) : pick none derived lo hi = derived := rfl

end Tuning

end TagAtlas
