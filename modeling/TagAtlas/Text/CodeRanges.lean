/-! Sets of code points written as sorted lists of inclusive ranges, the form in which the
property tables of the Unicode character database are kept. -/
namespace TagAtlas.Text

/-- Whether `n` lies in one of the inclusive ranges, which are sorted and do not overlap. -/
def inRanges (n : Nat) : List (Nat × Nat) → Bool
  | [] => false
  | (lo, hi) :: rest => if n < lo then false else if n ≤ hi then true else inRanges n rest

example : inRanges 5 [(1, 2), (4, 6)] = true ∧ inRanges 3 [(1, 2), (4, 6)] = false := by decide

end TagAtlas.Text
