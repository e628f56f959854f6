import TagAtlas.Text.CaseTable
import TagAtlas.Text.CodeRanges
/-! Full Unicode lowercasing. Each character lowers by the table of one-to-one mappings, except
capital I with dot above, which lowers to two characters, and capital sigma, which becomes
final sigma at the end of a word: after a cased letter and before no cased letter, skipping
case-ignorable characters on both sides. -/
namespace TagAtlas.Text

/-- Whether a character has the Case_Ignorable property. -/
def isCaseIgnorable (c : Char) : Bool := inRanges c.toNat caseIgnorableRanges

/-- Whether a character that is not case-ignorable has the Cased property. -/
def isCased (c : Char) : Bool := inRanges c.toNat casedRanges

/-- The code point a run sends `n` to, if the run covers `n`. -/
def runImage (n : Nat) : Nat × Nat × Nat × Int → Option Nat
  | (first, count, stride, offset) =>
    if first ≤ n ∧ n < first + stride * count ∧ (n - first) % stride = 0 then
      some (((n : Int) + offset).toNat)
    else none

/-- The one-to-one lowercase of a character. -/
def lowerSimple (c : Char) : Char :=
  if c.toNat < 0x80 then (if 'A' ≤ c ∧ c ≤ 'Z' then Char.ofNat (c.toNat + 32) else c)
  else
    match lowerRuns.findSome? (runImage c.toNat) with
    | some n => Char.ofNat n
    | none => c

/-- Capital sigma. -/
def capitalSigma : Char := 'Σ'

/-- Whether, after skipping case-ignorable characters, the next character is cased. -/
def casedAfterIgnorable (cs : List Char) : Bool :=
  match cs.dropWhile isCaseIgnorable with
  | c :: _ => isCased c
  | [] => false

/-- The lowercase of `c`, whose preceding characters are `before` (nearest first) and whose
following characters are `after`. -/
def lowerAt (before : List Char) (c : Char) (after : List Char) : List Char :=
  if c = 'İ' then ['i', '̇']
  else if c = capitalSigma then
    if casedAfterIgnorable before && !casedAfterIgnorable after then ['ς'] else ['σ']
  else [lowerSimple c]

/-- Lowercase a list of characters, `before` holding the characters already passed. -/
def lowerList (before : List Char) : List Char → List Char
  | [] => []
  | c :: rest => lowerAt before c rest ++ lowerList (c :: before) rest

/-- The full lowercase of a text. -/
def lowercase (s : String) : String := String.ofList (lowerList [] s.toList)

@[simp] theorem lowerList_nil (before : List Char) : lowerList before [] = [] := rfl

example : lowercase "TAİKO" = "tai̇ko" := by decide
example : lowercase "ΣΑΣ" = "σας" := by decide

end TagAtlas.Text
