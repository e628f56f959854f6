/-! UTF-8 bytes of text, and text of bytes with replacement. Decoding reads the longest
well-formed sequence at each point; a byte that cannot start a sequence, or the part of a
sequence read before a byte that cannot continue it, becomes one U+FFFD and decoding goes on
from the next byte not yet used. -/
namespace TagAtlas

namespace Utf8

/-- The UTF-8 bytes of a character. -/
def encodeChar (c : Char) : List Nat :=
  let n := c.toNat
  if n < 0x80 then [n]
  else if n < 0x800 then [0xC0 + n / 64, 0x80 + n % 64]
  else if n < 0x10000 then [0xE0 + n / 4096, 0x80 + n / 64 % 64, 0x80 + n % 64]
  else [0xF0 + n / 262144, 0x80 + n / 4096 % 64, 0x80 + n / 64 % 64, 0x80 + n % 64]

/-- The UTF-8 bytes of a text. -/
def encode (s : String) : List Nat := s.toList.flatMap encodeChar

/-- The replacement character. -/
def replacement : Char := Char.ofNat 0xFFFD

/-- The bounds of the second byte of a sequence led by a byte, and the number of bytes after
the lead; none for a byte that leads nothing. -/
def leadShape (b : Nat) : Option (Nat × Nat × Nat) :=
  if 0xC2 ≤ b && b ≤ 0xDF then some (0x80, 0xBF, 1)
  else if b = 0xE0 then some (0xA0, 0xBF, 2)
  else if (0xE1 ≤ b && b ≤ 0xEC) || b = 0xEE || b = 0xEF then some (0x80, 0xBF, 2)
  else if b = 0xED then some (0x80, 0x9F, 2)
  else if b = 0xF0 then some (0x90, 0xBF, 3)
  else if 0xF1 ≤ b && b ≤ 0xF3 then some (0x80, 0xBF, 3)
  else if b = 0xF4 then some (0x80, 0x8F, 3)
  else none

/-- Read the continuation bytes of a sequence: the first within `[lo, hi]`, the others within
`[0x80, 0xBF]`. Gives the value so far and the rest, or none where a byte does not fit. -/
def continuation (lo hi : Nat) : Nat → Nat → List Nat → Option Nat × List Nat
  | 0, acc, rest => (some acc, rest)
  | k + 1, acc, b :: rest =>
    if lo ≤ b && b ≤ hi then continuation 0x80 0xBF k (64 * acc + (b - 0x80)) rest
    else (none, b :: rest)
  | _ + 1, _, [] => (none, [])

theorem continuation_length (lo hi k acc : Nat) (rest : List Nat) :
    (continuation lo hi k acc rest).2.length ≤ rest.length := by
  induction k generalizing lo hi acc rest with
  | zero => simp [continuation]
  | succ k ih =>
    cases rest with
    | nil => simp [continuation]
    | cons b more =>
      simp only [continuation]
      split
      · have := ih 0x80 0xBF (64 * acc + (b - 0x80)) more
        simp only [List.length_cons]
        omega
      · simp

/-- The character at the front of bytes led by `b`, and the bytes after it. -/
def decodeOne (b : Nat) (rest : List Nat) : Char × List Nat :=
  if b < 0x80 then (Char.ofNat b, rest)
  else
    match leadShape b with
    | none => (replacement, rest)
    | some (lo, hi, k) =>
      let lead := if k = 1 then b - 0xC0 else if k = 2 then b - 0xE0 else b - 0xF0
      let r := continuation lo hi k lead rest
      ((r.1.map Char.ofNat).getD replacement, r.2)

theorem decodeOne_length (b : Nat) (rest : List Nat) : (decodeOne b rest).2.length ≤ rest.length := by
  unfold decodeOne
  split
  · exact Nat.le_refl _
  · split
    · exact Nat.le_refl _
    · rename_i lo hi k _
      exact continuation_length lo hi k _ rest

/-- The characters of bytes, each ill-formed part replaced. -/
def decodeLossy : List Nat → List Char
  | [] => []
  | b :: rest =>
    have := decodeOne_length b rest
    (decodeOne b rest).1 :: decodeLossy (decodeOne b rest).2
termination_by bs => bs.length

/-- Where bytes stop being well-formed UTF-8: how many bytes before the bad sequence are
well-formed, and how long its ill-formed part is, none when the bytes end inside it. -/
structure Fault where
  validUpTo : Nat
  errorLength : Option Nat
  deriving Repr, BEq, DecidableEq

/-- The text of a fault. -/
def Fault.message (f : Fault) : String :=
  match f.errorLength with
  | some n => "invalid utf-8 sequence of " ++ toString n ++ " bytes from index " ++ toString f.validUpTo
  | none => "incomplete utf-8 byte sequence from index " ++ toString f.validUpTo

/-- How many of `k` continuation bytes fit, the first within `[lo, hi]`, and whether the bytes
ran out before one did not fit. -/
def fitting (lo hi : Nat) : Nat → List Nat → Nat × Bool
  | 0, _ => (0, false)
  | _ + 1, [] => (0, true)
  | k + 1, b :: rest =>
    if lo ≤ b && b ≤ hi then
      let r := fitting 0x80 0xBF k rest
      (r.1 + 1, r.2)
    else (0, false)

/-- The first fault of bytes that start at index `start`, none when they are well-formed. -/
def firstFault (start : Nat) : List Nat → Option Fault
  | [] => none
  | b :: rest =>
    if b < 0x80 then firstFault (start + 1) rest
    else
      match leadShape b with
      | none => some ⟨start, some 1⟩
      | some (lo, hi, k) =>
        let r := fitting lo hi k rest
        if r.1 = k then firstFault (start + k + 1) (rest.drop k)
        else if r.2 then some ⟨start, none⟩
        else some ⟨start, some (r.1 + 1)⟩
termination_by bs => bs.length
decreasing_by all_goals simp only [List.length_drop, List.length_cons]; omega

/-- Whether bytes are well-formed UTF-8. -/
def valid (bytes : List Nat) : Bool := (firstFault 0 bytes).isNone

example : firstFault 0 [0x61, 0xFF] = some ⟨1, some 1⟩ := by simp [firstFault, leadShape]
example : firstFault 0 [0xE2, 0x82] = some ⟨0, none⟩ := by simp [firstFault, fitting, leadShape]
example : firstFault 0 [0xE2, 0x82, 0x41] = some ⟨0, some 2⟩ := by simp [firstFault, fitting, leadShape]

/-- Overlong forms and surrogates are refused; the last scalar value is accepted and one past
it refused. -/
example : valid [0xC0, 0x80] = false ∧ valid [0xE0, 0x80, 0x80] = false ∧
    valid [0xED, 0xA0, 0x80] = false ∧ valid [0xF0, 0x9F, 0x98, 0x80] = true ∧
    valid [0xF4, 0x8F, 0xBF, 0xBF] = true ∧ valid [0xF4, 0x90, 0x80, 0x80] = false := by
  simp [valid, firstFault, fitting, leadShape]

end Utf8

end TagAtlas
