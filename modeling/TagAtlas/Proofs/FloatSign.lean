import TagAtlas.Proofs.FloatOrder
import TagAtlas.Plan.Assign
/-! Doubles that are not below zero. A zero, a positive finite value and positive infinity stay
so under addition, a positive finite value divided by a positive value is not below zero, and
packing such a value into its bits and reading it back keeps it so. Tag weights are therefore
never below zero, and neither is any sum of them: in particular none of them is not-a-number. -/
namespace TagAtlas

open Float.Model Float.Model.UnpackedFloat

/-- A zero, a positive finite value or positive infinity. -/
def unpackedNonneg : UnpackedFloat → Bool
  | .zero _ => true
  | .finite .positive .. => true
  | .infinity .positive => true
  | _ => false

/-- A positive finite value or positive infinity. -/
def unpackedPositive : UnpackedFloat → Bool
  | .finite .positive .. => true
  | .infinity .positive => true
  | _ => false

section Packing

theorem unpackSign_packComponents {spec : Format} {s : UnpackedFloat.Sign}
    {e : BitVec spec.exponentBits} {m : BitVec spec.mantissaBitsWithoutImplicit} :
    unpackSign (packComponents spec s e m) = s.toBitVec := by
  ext i hi
  obtain rfl : i = 0 := by omega
  simp [unpackSign, packComponents, BitVec.getLsbD_append, BitVec.getLsbD_eq_getElem,
    BitVec.getElem_append]

theorem ofBitVec_toBitVec (s : UnpackedFloat.Sign) : Sign.ofBitVec s.toBitVec = s := by
  cases s <;> rfl

/-- Positive bits read back as a value not below zero, unless they spell not-a-number. -/
theorem nonneg_unpack_packComponents {e : BitVec Format.binary64.exponentBits}
    {m : BitVec Format.binary64.mantissaBitsWithoutImplicit} (h : e = -1#_ → m = 0#_) :
    unpackedNonneg (UnpackedFloat.unpack .binary64 (packComponents .binary64 .positive e m)) = true := by
  simp only [UnpackedFloat.unpack, unpackExponent_packComponents, unpackMantissa_packComponents,
    unpackSign_packComponents, ofBitVec_toBitVec]
  split_ifs <;> simp_all [unpackedNonneg]

theorem nonneg_unpack_packedZero (s : UnpackedFloat.Sign) :
    unpackedNonneg (UnpackedFloat.unpack .binary64 (packedZero .binary64 s)) = true := by
  simp [UnpackedFloat.unpack, packedZero, unpackedNonneg]

/-- Packing a value not below zero and reading it back keeps it not below zero. -/
theorem nonneg_unpack_pack {r : UnpackedFloat} (hr : unpackedNonneg r = true) :
    unpackedNonneg (UnpackedFloat.unpack .binary64 (UnpackedFloat.pack .binary64 r)) = true := by
  rcases r with ⟨_ | _⟩ | _ | s | ⟨_ | _, m, e, hm⟩
  all_goals simp only [unpackedNonneg, Bool.false_eq_true] at hr
  · exact nonneg_unpack_packComponents fun _ => rfl
  · exact nonneg_unpack_packedZero s
  · simp only [UnpackedFloat.pack]
    split_ifs with hover hnormal
    · exact nonneg_unpack_packComponents fun _ => rfl
    · apply nonneg_unpack_packComponents
      intro hexp
      -- a normal exponent stays below the all-ones pattern of the infinities
      have hbits := congrArg BitVec.toNat hexp
      have hones : (-1#11 : BitVec 11).toNat = 2047 := by decide
      simp only [BitVec.toNat_ofNat] at hbits
      rw [hones] at hbits
      exfalso
      omega
    · exact nonneg_unpack_packComponents fun h => absurd h (by decide)

end Packing

section Arithmetic

theorem nonneg_roundWithAccuracy (m : Nat) (e : Int) (acc : Accuracy) :
    unpackedNonneg (roundWithAccuracy .binary64 .positive m e acc) = true := by
  unfold roundWithAccuracy
  dsimp only
  split_ifs <;> rfl

theorem nonneg_normalize {mant : Int} (h : 0 ≤ mant) (e : Int) :
    unpackedNonneg (UnpackedFloat.normalize .binary64 mant e .positive) = true := by
  unfold UnpackedFloat.normalize
  split
  · rename_i hlt
    exact absurd (Int.compare_eq_lt.1 hlt) (by omega)
  · rfl
  · exact nonneg_roundWithAccuracy ..

/-- A sum of values not below zero is not below zero. -/
theorem nonneg_add {x y : UnpackedFloat} (hx : unpackedNonneg x = true) (hy : unpackedNonneg y = true) :
    unpackedNonneg (UnpackedFloat.add .binary64 x y) = true := by
  rcases x with ⟨_ | _⟩ | _ | s | ⟨_ | _, m, e, hm⟩ <;>
  rcases y with ⟨_ | _⟩ | _ | s' | ⟨_ | _, m', e', hm'⟩ <;>
  simp_all [unpackedNonneg, UnpackedFloat.add]
  · split_ifs <;> rfl
  · exact nonneg_normalize (by simp only [Sign.apply]; omega) _

/-- A positive finite value divided by a positive value is not below zero. -/
theorem nonneg_div {x y : UnpackedFloat} (hx : unpackedPositive x = true) (hfin : x.isFinite = true)
    (hy : unpackedPositive y = true) : unpackedNonneg (UnpackedFloat.div .binary64 x y) = true := by
  rcases x with ⟨_ | _⟩ | _ | s | ⟨_ | _, m, e, hm⟩ <;>
  rcases y with ⟨_ | _⟩ | _ | s' | ⟨_ | _, m', e', hm'⟩ <;>
  simp_all [unpackedPositive, UnpackedFloat.div, UnpackedFloat.isFinite]
  · rfl
  · exact nonneg_roundWithAccuracy ..

/-- What is at least a positive value is positive. -/
theorem positive_of_le {x y : UnpackedFloat} (hx : unpackedPositive x = true) (hy : x.le y = true) :
    unpackedPositive y = true := by
  rcases x with ⟨_ | _⟩ | _ | s | ⟨_ | _, m, e, hm⟩ <;>
  rcases y with ⟨_ | _⟩ | _ | s' | ⟨_ | _, m', e', hm'⟩ <;>
  simp_all [unpackedPositive, UnpackedFloat.le, UnpackedFloat.compare, sign_compare_isLE]

end Arithmetic

/-- A double that is a zero, a positive finite value or positive infinity. -/
def NonnegFloat (x : Float) : Prop := unpackedNonneg x.toModel.unpack = true

theorem NonnegFloat.add {a b : Float} (ha : NonnegFloat a) (hb : NonnegFloat b) :
    NonnegFloat (a + b) :=
  nonneg_unpack_pack (nonneg_add ha hb)

theorem NonnegFloat.isNaN_eq_false {a : Float} (ha : NonnegFloat a) : a.isNaN = false := by
  unfold NonnegFloat at ha
  change a.toModel.unpack.isNaN = false
  cases h : a.toModel.unpack <;> simp_all [unpackedNonneg, UnpackedFloat.isNaN]

/-- A tag weight is never below zero: the logarithm, held at least `1e-6`, is positive, and one
over a positive value is not below zero. -/
theorem nonnegFloat_tagWeight (support : Nat) : NonnegFloat (tagWeight support) := by
  unfold tagWeight NonnegFloat
  apply nonneg_unpack_pack
  apply nonneg_div (by decide) (by decide)
  split_ifs with hfloor
  · exact positive_of_le (by decide) (float_le_iff.1 hfloor)
  · decide

end TagAtlas
