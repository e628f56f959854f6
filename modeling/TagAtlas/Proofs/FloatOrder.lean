import Mathlib
/-! The order of doubles. Comparison of doubles follows IEEE 754: not-a-number is unordered,
the two zeros are equal, and finite values compare by sign, then by exponent and mantissa.
Read through the logical model of doubles, `≤` is transitive, comparing the other way round
swaps the answer, and two numbers other than not-a-number always compare: so on them `<` and
`≤` behave as a linear order. -/
namespace TagAtlas

open Float.Model

/-- A double is at most another in IEEE order when its unpacked value is. -/
theorem float_le_iff {a b : Float} : a ≤ b ↔ a.toModel.unpack.le b.toModel.unpack = true :=
  decide_eq_true_iff

theorem sign_compare_isLE (s t : UnpackedFloat.Sign) :
    (compare s t).isLE = (s matches .negative || t matches .positive) := by
  cases s <;> cases t <;> rfl

/-- Finite values of one sign compare lexicographically by exponent, then mantissa. -/
theorem exponent_mantissa_isLE {e e' : Int} {m m' : Nat} :
    ((compare e e').then (compare m m')).isLE = true ↔ e < e' ∨ e = e' ∧ m ≤ m' := by
  rcases lt_trichotomy e e' with h | rfl | h
  · simp [compare_lt_iff_lt.2 h, h]
  · simp [Ordering.isLE_iff_ne_gt, compare_gt_iff_gt]
  · simp [compare_gt_iff_gt.2 h, h.not_gt, h.ne']

theorem exponent_mantissa_isGE {e e' : Int} {m m' : Nat} :
    ((compare e e').then (compare m m')).isGE = true ↔ e' < e ∨ e = e' ∧ m' ≤ m := by
  rcases lt_trichotomy e e' with h | rfl | h
  · simp [compare_lt_iff_lt.2 h, h.not_gt, h.ne]
  · simp [Ordering.isGE_iff_ne_lt, compare_lt_iff_lt]
  · simp [compare_gt_iff_gt.2 h, h]

theorem unpacked_le_trans {x y z : UnpackedFloat} (hxy : x.le y = true) (hyz : y.le z = true) :
    x.le z = true := by
  -- each value is an infinity, a zero or a finite value, of either sign, or not-a-number
  rcases x with ⟨_ | _⟩ | _ | ⟨_ | _⟩ | ⟨_ | _, m, e, _⟩ <;>
  rcases y with ⟨_ | _⟩ | _ | ⟨_ | _⟩ | ⟨_ | _, m', e', _⟩ <;>
  rcases z with ⟨_ | _⟩ | _ | ⟨_ | _⟩ | ⟨_ | _, m'', e'', _⟩ <;>
  simp_all [UnpackedFloat.le, UnpackedFloat.compare, sign_compare_isLE, exponent_mantissa_isLE,
    exponent_mantissa_isGE] <;>
  omega

/-- IEEE `≤` on doubles is transitive. -/
theorem float_le_trans {a b c : Float} (hab : a ≤ b) (hbc : b ≤ c) : a ≤ c :=
  float_le_iff.2 (unpacked_le_trans (float_le_iff.1 hab) (float_le_iff.1 hbc))

theorem float_lt_iff {a b : Float} : a < b ↔ a.toModel.unpack.lt b.toModel.unpack = true :=
  decide_eq_true_iff

theorem compare_swap_then {e e' : Int} {m m' : Nat} :
    (compare e' e).then (compare m' m) = ((compare e e').then (compare m m')).swap := by
  rw [Ordering.swap_then, ← Std.OrientedCmp.eq_swap, ← Std.OrientedCmp.eq_swap]

/-- Comparing the other way round swaps the answer. -/
theorem unpacked_compare_swap (x y : UnpackedFloat) : y.compare x = (x.compare y).map Ordering.swap := by
  rcases x with ⟨_ | _⟩ | _ | ⟨_ | _⟩ | ⟨_ | _, m, e, _⟩ <;>
  rcases y with ⟨_ | _⟩ | _ | ⟨_ | _⟩ | ⟨_ | _, m', e', _⟩ <;>
  simp [UnpackedFloat.compare]
  · decide
  · decide
  · decide
  · decide
  · rw [compare_swap_then, Ordering.swap_swap]
  · exact compare_swap_then

theorem unpacked_lt_iff {x y : UnpackedFloat} : x.lt y = true ↔ x.le y = true ∧ y.le x = false := by
  simp only [UnpackedFloat.lt, UnpackedFloat.le, unpacked_compare_swap x y]
  cases x.compare y with
  | none => simp
  | some o => cases o <;> simp [Ordering.swap]

theorem unpacked_lt_of_lt_of_le {x y z : UnpackedFloat} (hxy : x.lt y = true) (hyz : y.le z = true) :
    x.lt z = true := by
  obtain ⟨hle, hnot⟩ := unpacked_lt_iff.1 hxy
  refine unpacked_lt_iff.2 ⟨unpacked_le_trans hle hyz, ?_⟩
  cases hzx : z.le x
  · rfl
  · rw [unpacked_le_trans hyz hzx] at hnot
    cases hnot

theorem unpacked_lt_of_le_of_lt {x y z : UnpackedFloat} (hxy : x.le y = true) (hyz : y.lt z = true) :
    x.lt z = true := by
  obtain ⟨hle, hnot⟩ := unpacked_lt_iff.1 hyz
  refine unpacked_lt_iff.2 ⟨unpacked_le_trans hxy hle, ?_⟩
  cases hzx : z.le x
  · rfl
  · rw [unpacked_le_trans hzx hxy] at hnot
    cases hnot

theorem unpacked_lt_irrefl (x : UnpackedFloat) : x.lt x = false := by
  cases h : x.lt x
  · rfl
  · have h' := unpacked_lt_iff.1 h
    rw [h'.1] at h'
    cases h'.2

/-- Two numbers always compare. -/
theorem unpacked_compare_isSome {x y : UnpackedFloat} (hx : x.isNaN = false) (hy : y.isNaN = false) :
    (x.compare y).isSome = true := by
  rcases x with ⟨_ | _⟩ | _ | ⟨_ | _⟩ | ⟨_ | _, m, e, _⟩ <;>
  rcases y with ⟨_ | _⟩ | _ | ⟨_ | _⟩ | ⟨_ | _, m', e', _⟩ <;>
  simp_all [UnpackedFloat.compare, UnpackedFloat.isNaN]

theorem unpacked_le_of_lt_eq_false {x y : UnpackedFloat} (hx : x.isNaN = false) (hy : y.isNaN = false)
    (h : x.lt y = false) : y.le x = true := by
  obtain ⟨o, ho⟩ := Option.isSome_iff_exists.1 (unpacked_compare_isSome hx hy)
  simp only [UnpackedFloat.lt, UnpackedFloat.le, unpacked_compare_swap x y, ho] at h ⊢
  cases o <;> simp_all [Ordering.swap]

theorem unpacked_le_refl {x : UnpackedFloat} (hx : x.isNaN = false) : x.le x = true := by
  obtain ⟨o, ho⟩ := Option.isSome_iff_exists.1 (unpacked_compare_isSome hx hx)
  have hswap := unpacked_compare_swap x x
  rw [ho] at hswap
  simp only [UnpackedFloat.le, ho]
  -- a number compares with itself as its own swap, so as equal
  cases o with
  | lt => exact absurd hswap (by decide)
  | eq => rfl
  | gt => exact absurd hswap (by decide)

section Doubles

variable {a b c : Float}

theorem float_le_of_lt (h : a < b) : a ≤ b :=
  float_le_iff.2 (unpacked_lt_iff.1 (float_lt_iff.1 h)).1

theorem float_lt_of_lt_of_le (hab : a < b) (hbc : b ≤ c) : a < c :=
  float_lt_iff.2 (unpacked_lt_of_lt_of_le (float_lt_iff.1 hab) (float_le_iff.1 hbc))

theorem float_lt_of_le_of_lt (hab : a ≤ b) (hbc : b < c) : a < c :=
  float_lt_iff.2 (unpacked_lt_of_le_of_lt (float_le_iff.1 hab) (float_lt_iff.1 hbc))

theorem float_lt_irrefl (a : Float) : ¬a < a := fun h => by
  rw [float_lt_iff, unpacked_lt_irrefl] at h
  cases h

theorem float_le_of_not_lt (ha : a.isNaN = false) (hb : b.isNaN = false) (h : ¬a < b) : b ≤ a :=
  float_le_iff.2 (unpacked_le_of_lt_eq_false ha hb (by simpa [float_lt_iff] using h))

theorem float_le_refl (ha : a.isNaN = false) : a ≤ a :=
  float_le_iff.2 (unpacked_le_refl ha)

end Doubles

end TagAtlas
