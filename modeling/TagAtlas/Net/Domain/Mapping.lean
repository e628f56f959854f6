import TagAtlas.Net.Domain.MapTable
import TagAtlas.Net.Domain.ShiftTable
/-! What the mapping step of the domain name standard does with each code point: keep it,
drop it, replace it by other code points, or reject the domain. ASCII capitals become small
letters and the rest of ASCII is kept; from U+0080 on the tables decide. Deviation characters
(`ß`, `ς` and the zero-width joiner and non-joiner) are kept, as nontransitional processing
asks. -/
namespace TagAtlas.Domain

/-- The fate of one code point under mapping. -/
inductive Mapped
  | keep
  | drop
  | replace (text : List Char)
  | reject
  deriving DecidableEq, Repr

/-- The code point of a shift run that covers `n`, if any. -/
def shiftOf? (n : Nat) : List (Nat × Nat × Nat × Nat) → Option Nat
  | [] => none
  | (lo, hi, step, target) :: rest =>
    if n < lo then none
    else if n ≤ hi && (n - lo) % step == 0 then some (target + (n - lo))
    else shiftOf? n rest

/-- The text of a text mapping that covers `n`, if any. -/
def textOf? (n : Nat) : List (Nat × Nat × List Nat) → Option (List Nat)
  | [] => none
  | (lo, hi, text) :: rest =>
    if n < lo then none else if n ≤ hi then some text else textOf? n rest

/-- How mapping treats a code point. -/
def mapChar (c : Char) : Mapped :=
  let n := c.toNat
  if n < 0x80 then
    if 0x41 ≤ n && n ≤ 0x5A then .replace [Char.ofNat (n + 32)] else .keep
  else if Text.inRanges n disallowedRanges then .reject
  else if Text.inRanges n ignoredRanges then .drop
  else
    match shiftOf? n shiftRuns with
    | some m => .replace [Char.ofNat m]
    | none =>
      match textOf? n textMaps with
      | some text => .replace (text.map Char.ofNat)
      | none => .keep

/-- Whether a code point may stand in a label as it is: mapping keeps it. -/
def isValid (c : Char) : Bool := mapChar c == .keep

/-- Map every code point of a text; none when one is rejected. -/
def mapText : List Char → Option (List Char)
  | [] => some []
  | c :: rest =>
    match mapChar c, mapText rest with
    | _, none => none
    | .keep, some r => some (c :: r)
    | .drop, some r => some r
    | .replace text, some r => some (text ++ r)
    | .reject, some _ => none

example : mapChar 'Q' = .replace ['q'] ∧ mapChar 'ß' = .keep ∧ mapChar '­' = .drop ∧
    mapChar 'Ａ' = .replace ['a'] ∧ mapChar '。' = .replace ['.'] ∧ mapChar '⒈' = .reject ∧
    mapChar '�' = .reject := by decide +kernel

example : mapText "Bücher".toList = some "bücher".toList := by decide +kernel

end TagAtlas.Domain
