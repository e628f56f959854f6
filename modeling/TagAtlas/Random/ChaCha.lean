/-! The ChaCha keystream with twelve rounds, read as a stream of 32-bit words.
A generator holds a 256-bit key and the position of the next word; words come out
block by block in counter order, so the stream does not depend on how it is buffered. -/
namespace TagAtlas.Random

namespace ChaCha

/-- Rotation of a word to the left by `n` places, for `0 < n < 32`. -/
def rotl (x : UInt32) (n : UInt32) : UInt32 := (x <<< n) ||| (x >>> (32 - n))

/-- The "expand 32-byte k" constant words. -/
def sigma : List UInt32 := [0x61707865, 0x3320646e, 0x79622d32, 0x6b206574]

/-- One quarter round on four words of the state, given by their positions. -/
def quarter (s : Array UInt32) (a b c d : Nat) : Array UInt32 :=
  let va := s.getD a 0 + s.getD b 0
  let vd := rotl (s.getD d 0 ^^^ va) 16
  let vc := s.getD c 0 + vd
  let vb := rotl (s.getD b 0 ^^^ vc) 12
  let va := va + vb
  let vd := rotl (vd ^^^ va) 8
  let vc := vc + vd
  let vb := rotl (vb ^^^ vc) 7
  ((((s.setIfInBounds a va).setIfInBounds b vb).setIfInBounds c vc).setIfInBounds d vd)

/-- A column round followed by a diagonal round. -/
def doubleRound (s : Array UInt32) : Array UInt32 :=
  let s := quarter s 0 4 8 12
  let s := quarter s 1 5 9 13
  let s := quarter s 2 6 10 14
  let s := quarter s 3 7 11 15
  let s := quarter s 0 5 10 15
  let s := quarter s 1 6 11 12
  let s := quarter s 2 7 8 13
  quarter s 3 4 9 14

/-- The initial state of block `counter`: constants, key, a 64-bit counter and stream zero. -/
def initial (key : Array UInt32) (counter : Nat) : Array UInt32 :=
  (sigma ++ key.toList ++
    [UInt32.ofNat (counter % Nat.pow 2 32), UInt32.ofNat (counter / Nat.pow 2 32 % Nat.pow 2 32), 0, 0]).toArray

/-- The sixteen output words of block `counter` after `rounds / 2` double rounds. -/
def block (rounds : Nat) (key : Array UInt32) (counter : Nat) : Array UInt32 :=
  let init := initial key counter
  let mixed := (List.range (rounds / 2)).foldl (fun s _ => doubleRound s) init
  (mixed.zip init).map fun (x, y) => x + y

end ChaCha

/-- A keystream generator: the key, the counter of the next block, and the words of the
current block not yet read. -/
structure ChaChaStream where
  key : Array UInt32
  counter : Nat := 0
  pending : List UInt32 := []

namespace ChaChaStream

/-- The number of rounds of the generator. -/
def rounds : Nat := 12

/-- The generator whose key is the 32 bytes `seed`, read as eight little-endian words. -/
def ofSeed (seed : List UInt8) : ChaChaStream :=
  let word (i : Nat) : UInt32 :=
    (List.range 4).foldr (fun j acc => (acc <<< 8) ||| (seed.getD (4 * i + j) 0).toUInt32) 0
  { key := (List.range 8).map word |>.toArray }

/-- The next word of the stream. -/
def nextWord (g : ChaChaStream) : UInt32 × ChaChaStream :=
  match g.pending with
  | w :: rest => (w, { g with pending := rest })
  | [] =>
    match (ChaCha.block rounds g.key g.counter).toList with
    | w :: rest => (w, { g with counter := g.counter + 1, pending := rest })
    | [] => (0, { g with counter := g.counter + 1 })

/-- The next 64-bit value: two consecutive words, the first one low. -/
def nextWide (g : ChaChaStream) : UInt64 × ChaChaStream :=
  let (lo, g) := g.nextWord
  let (hi, g) := g.nextWord
  ((hi.toUInt64 <<< 32) ||| lo.toUInt64, g)

end ChaChaStream

end TagAtlas.Random
