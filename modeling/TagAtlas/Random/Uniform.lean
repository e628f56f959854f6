import TagAtlas.Random.ChaCha
/-! Seeding a generator from one 64-bit number, and drawing booleans and integers in a range
from it. Integers use the widening-multiply method with one extra draw to settle a biased
low half, on 32-bit words for ranges that fit in 32 bits and on 64-bit words otherwise. -/
namespace TagAtlas.Random

namespace Seed

/-- The multiplier of the permuted congruential step that spreads a 64-bit seed. -/
def multiplier : UInt64 := 6364136223846793005
/-- The increment of that step. -/
def increment : UInt64 := 11634580027462260723

/-- One step: advance the state, then output the rotated xor-shift of the new state. -/
def step (state : UInt64) : UInt32 × UInt64 :=
  let s := state * multiplier + increment
  let xorshifted := (((s >>> 18) ^^^ s) >>> 27).toUInt32
  let rot := (s >>> 59).toUInt32
  let out := (xorshifted >>> rot) ||| (xorshifted <<< ((32 - rot) % 32))
  (out, s)

/-- The little-endian bytes of a word. -/
def bytes (w : UInt32) : List UInt8 :=
  [w.toUInt8, (w >>> 8).toUInt8, (w >>> 16).toUInt8, (w >>> 24).toUInt8]

/-- The 32 seed bytes made from a 64-bit number by eight steps. -/
def expand (seed : UInt64) : List UInt8 :=
  let rec go : Nat → UInt64 → List UInt8
    | 0, _ => []
    | n + 1, s => let (w, s') := step s; bytes w ++ go n s'
  go 8 seed

end Seed

/-- The generator seeded from a 64-bit number. -/
def ChaChaStream.ofNumber (seed : UInt64) : ChaChaStream :=
  ChaChaStream.ofSeed (Seed.expand seed)

namespace ChaChaStream

/-- A fair draw with probability `p` of `true`: a 64-bit value below `p · 2^64`.
Probability one is always true and takes no draw. -/
def chance (g : ChaChaStream) (p : Float) : Bool × ChaChaStream :=
  if p == 1.0 then (true, g)
  else
    let bound := (p * 18446744073709551616.0).toUInt64
    let (v, g) := g.nextWide
    (decide (v < bound), g)

/-- A draw in `[0, span)` for `0 < span ≤ 2^32`, on 32-bit words; `span = 2^32` is the
whole word. -/
def below32 (g : ChaChaStream) (span : Nat) : Nat × ChaChaStream :=
  if span ≥ Nat.pow 2 32 then
    let (w, g) := g.nextWord
    (w.toNat, g)
  else
    let (w, g) := g.nextWord
    let prod := w.toNat * span
    let hi := prod / Nat.pow 2 32
    let lo := prod % Nat.pow 2 32
    if lo > Nat.pow 2 32 - span then
      let (w', g) := g.nextWord
      let hi' := w'.toNat * span / Nat.pow 2 32
      (if lo + hi' ≥ Nat.pow 2 32 then hi + 1 else hi, g)
    else (hi, g)

/-- A draw in `[0, span)` for `0 < span ≤ 2^64`, on 64-bit values. -/
def below64 (g : ChaChaStream) (span : Nat) : Nat × ChaChaStream :=
  if span ≥ Nat.pow 2 64 then
    let (w, g) := g.nextWide
    (w.toNat, g)
  else
    let (w, g) := g.nextWide
    let prod := w.toNat * span
    let hi := prod / Nat.pow 2 64
    let lo := prod % Nat.pow 2 64
    if lo > Nat.pow 2 64 - span then
      let (w', g) := g.nextWide
      let hi' := w'.toNat * span / Nat.pow 2 64
      (if lo + hi' ≥ Nat.pow 2 64 then hi + 1 else hi, g)
    else (hi, g)

/-- A size in `[low, high)`: on 32-bit words when `high - 1` fits in 32 bits. -/
def size (g : ChaChaStream) (low high : Nat) : Nat × ChaChaStream :=
  if high - 1 < Nat.pow 2 32 then
    let (v, g) := g.below32 (high - low)
    (low + v, g)
  else
    let (v, g) := g.below64 (high - low)
    (low + v, g)

/-- A 32-bit signed integer in `[low, high)`, drawn on 32-bit words. -/
def int32 (g : ChaChaStream) (low high : Int) : Int × ChaChaStream :=
  let (v, g) := g.below32 (high - low).toNat
  (low + v, g)

/-- A 64-bit signed integer in `[low, high]`, drawn on 64-bit values. -/
def int64Incl (g : ChaChaStream) (low high : Int) : Int × ChaChaStream :=
  let (v, g) := g.below64 (high - low + 1).toNat
  (low + v, g)

end ChaChaStream

/-- The draws a consumer makes of a random source with state `σ`: a boolean that is true with
a probability, a size in `[low, high)`, a 32-bit integer in `[low, high)` and a 64-bit integer
in `[low, high]`. -/
structure Draws (σ : Type) where
  chance : σ → Float → Bool × σ
  size : σ → Nat → Nat → Nat × σ
  int32 : σ → Int → Int → Int × σ
  int64Incl : σ → Int → Int → Int × σ

/-- The draws of the keystream generator. -/
def ChaChaStream.draws : Draws ChaChaStream where
  chance := ChaChaStream.chance
  size := ChaChaStream.size
  int32 := ChaChaStream.int32
  int64Incl := ChaChaStream.int64Incl

end TagAtlas.Random
