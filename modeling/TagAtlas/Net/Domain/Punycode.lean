/-! Punycode (RFC 3492), the bootstring that writes a label of any code points in ASCII letters,
digits and hyphens. The ASCII code points of a label come first, then a hyphen when there are
any, then the others in order of code point, each as a variable-length number in base 36 that
says how far to move from the last insertion.

Reading fails on a digit that is not a letter or a digit, on a number cut short, on a number or
weight past 2³² - 1, and on a code point that is a surrogate or past U+10FFFF. Every loop ends
on a measure: the numbers read shrink the input, the written digits shrink the number, and
writing handles one more code point at each round. -/
namespace TagAtlas.Domain.Punycode

/-- The largest number a reader keeps: 2³² - 1. -/
def limit : Nat := 0xFFFFFFFF

/-- The character of a digit: `a`–`z` for 0 to 25, `0`–`9` for 26 to 35. -/
def digitChar (d : Nat) : Char :=
  if d < 26 then Char.ofNat (0x61 + d) else Char.ofNat (0x30 + d - 26)

/-- The value of a digit character; capitals count as small letters. -/
def digitValue (c : Char) : Option Nat :=
  let n := c.toNat
  if 0x61 ≤ n && n ≤ 0x7A then some (n - 0x61)
  else if 0x41 ≤ n && n ≤ 0x5A then some (n - 0x41)
  else if 0x30 ≤ n && n ≤ 0x39 then some (n - 0x30 + 26)
  else none

/-- The threshold of the digit at position `k` under a bias: between 1 and 26. -/
def threshold (k bias : Nat) : Nat :=
  if k ≤ bias then 1 else if bias + 26 ≤ k then 26 else k - bias

theorem one_le_threshold (k bias : Nat) : 1 ≤ threshold k bias := by
  unfold threshold; split <;> (try split) <;> omega

theorem threshold_le (k bias : Nat) : threshold k bias ≤ 26 := by
  unfold threshold; split <;> (try split) <;> omega

/-- Divide a large delta by 35 until it is at most 455, counting 36 for each division. -/
def scaleDown (delta k : Nat) : Nat × Nat :=
  if 455 < delta then scaleDown (delta / 35) (k + 36) else (delta, k)
termination_by delta
decreasing_by omega

/-- The bias after a delta, with `points` code points written so far. -/
def adapt (delta points : Nat) (first : Bool) : Nat :=
  let d := if first then delta / 700 else delta / 2
  let d := d + d / points
  let (d, k) := scaleDown d 0
  k + 36 * d / (d + 38)

/-- Read one variable-length number onto `i`, with weight `w` at position `k`: the new `i` and
the input left. -/
def readNumber (bias : Nat) : List Char → Nat → Nat → Nat → Option (Nat × List Char)
  | [], _, _, _ => none
  | c :: rest, k, w, i =>
    match digitValue c with
    | none => none
    | some d =>
      if d * w > limit - i then none
      else
        let t := threshold k bias
        if d < t then some (i + d * w, rest)
        else if w * (36 - t) > limit then none
        else readNumber bias rest (k + 36) (w * (36 - t)) (i + d * w)

theorem readNumber_shorter (bias : Nat) :
    ∀ (l : List Char) (k w i : Nat) (r : Nat × List Char),
      readNumber bias l k w i = some r → r.2.length < l.length
  | [], _, _, _, _, h => by simp [readNumber] at h
  | c :: rest, k, w, i, r, h => by
    rw [readNumber] at h
    split at h
    · simp at h
    · split at h
      · simp at h
      · dsimp only at h
        split at h
        · rw [← Option.some.inj h]; simp
        · split at h
          · simp at h
          · have := readNumber_shorter bias rest (k + 36) _ _ r h
            simp; omega

/-- Whether a number is a code point that is not a surrogate. -/
def isScalar (n : Nat) : Bool := n < 0xD800 || (0xDFFF < n && n < 0x110000)

/-- Insert the code points of the numbers that follow, from code point `n` and position `i`. -/
def insertAll (bias n i : Nat) (out : List Char) : List Char → Option (List Char)
  | [] => some out
  | c :: rest =>
    match h : readNumber bias (c :: rest) 36 1 i with
    | none => none
    | some (i', left) =>
      let points := out.length + 1
      let n' := n + i' / points
      let pos := i' % points
      if isScalar n' then
        insertAll (adapt (i' - i) points (i == 0)) n' (pos + 1) (out.insertIdx pos (Char.ofNat n'))
          left
      else none
termination_by l => l.length
decreasing_by simpa using readNumber_shorter bias (c :: rest) 36 1 i (i', left) h

/-- Split at the last hyphen: the ASCII part before it and the numbers after it. Without a
hyphen there is no ASCII part. -/
def splitLastHyphen (input : List Char) : List Char × List Char :=
  match input.reverse.span (· != '-') with
  | (tail, []) => ([], tail.reverse)
  | (tail, _ :: head) => (head.reverse, tail.reverse)

/-- Read a label written in Punycode (without its `xn--`). -/
def decode (input : List Char) : Option (List Char) :=
  let (basic, numbers) := splitLastHyphen input
  if basic.any (·.toNat ≥ 0x80) then none else insertAll 72 128 0 basic numbers

/-- The digits of a number `q` from position `k` on. -/
def writeNumber (bias k q : Nat) : List Char :=
  let t := threshold k bias
  if q < t then [digitChar q]
  else digitChar (t + (q - t) % (36 - t)) :: writeNumber bias (k + 36) ((q - t) / (36 - t))
termination_by q
decreasing_by
  have := one_le_threshold k bias
  have := threshold_le k bias
  have : (q - threshold k bias) / (36 - threshold k bias) ≤ q - threshold k bias :=
    Nat.div_le_self _ _
  omega

/-- What writing carries from one code point to the next: the digits so far, the delta, the
bias and how many code points are handled. -/
structure Writer where
  out : List Char
  delta : Nat
  bias : Nat
  handled : Nat

/-- Pass one code point of the label while writing code point `m`: a smaller one adds to the
delta, `m` itself writes the delta. -/
def Writer.pass (basic m : Nat) (w : Writer) (c : Char) : Writer :=
  if c.toNat < m then { w with delta := w.delta + 1 }
  else if c.toNat == m then
    { out := w.out ++ writeNumber w.bias 36 w.delta, delta := 0,
      bias := adapt w.delta (w.handled + 1) (w.handled == basic), handled := w.handled + 1 }
  else w

/-- Write the code points of `todo`, in increasing order, the last written being below `n`. -/
def writeAll (label : List Char) (basic : Nat) : List Nat → Nat → Writer → Writer
  | [], _, w => w
  | m :: rest, n, w =>
    let w := { w with delta := w.delta + (m - n) * (w.handled + 1) }
    let w := label.foldl (Writer.pass basic m) w
    writeAll label basic rest (m + 1) { w with delta := w.delta + 1 }

/-- The distinct code points from U+0080 on of a label, in increasing order. -/
def wideCodes (label : List Char) : List Nat :=
  ((label.map Char.toNat).filter (· ≥ 0x80)).mergeSort.eraseDups

/-- Write a label in Punycode (without its `xn--`). -/
def encode (label : List Char) : List Char :=
  let basic := label.filter (·.toNat < 0x80)
  let start : Writer := { out := [], delta := 0, bias := 72, handled := basic.length }
  basic ++ (if basic.isEmpty then [] else ['-']) ++
    (writeAll label basic.length (wideCodes label) 128 start).out

example : decode "zca".toList = some ['ß'] ∧ encode ['ß'] = "zca".toList := by decide +kernel

example : decode "bcher-kva".toList = some "bücher".toList ∧
    encode "bücher".toList = "bcher-kva".toList := by decide +kernel

example : decode [] = some [] ∧ decode "9".toList = none ∧ decode "a!".toList = none := by
  decide +kernel

end TagAtlas.Domain.Punycode
