import TagAtlas.Proofs.Clamping
import TagAtlas.Proofs.FloatSign
/-! The value of a double. A zero or a positive finite double, as read from its bits, is
`m · 2^e` with `m < 2^53` and `-1074 ≤ e ≤ 971`, and either `2^52 ≤ m` (a normal double) or
`e = -1074` (a subnormal one). On such doubles IEEE comparison is the order of their values,
and packing one into bits and reading it back gives it again. -/
namespace TagAtlas

open Float.Model Float.Model.UnpackedFloat

/-- The rational value of a finite unpacked double; the others count as zero. -/
def unpackedValue : UnpackedFloat → ℚ
  | .finite s m e _ => s.apply m * 2 ^ e
  | _ => 0

/-- A zero, or a positive finite value in the form that reading a double's bits gives. -/
def Stored : UnpackedFloat → Prop
  | .zero _ => True
  | .finite .positive m e _ => m < 2 ^ 53 ∧ -1074 ≤ e ∧ e ≤ 971 ∧ (2 ^ 52 ≤ m ∨ e = -1074)
  | _ => False

@[simp] theorem unpackedValue_zero (s : UnpackedFloat.Sign) : unpackedValue (.zero s) = 0 := rfl

@[simp] theorem unpackedValue_positive (m : Nat) (e : Int) (h : 0 < m) :
    unpackedValue (.finite .positive m e h) = m * 2 ^ e := by
  simp [unpackedValue, Sign.apply]

section Stored

variable {u v : UnpackedFloat}

theorem Stored.nonneg (h : Stored u) : unpackedNonneg u = true := by
  rcases u with ⟨_ | _⟩ | _ | _ | ⟨_ | _, m, e, hm⟩ <;> simp_all [Stored, unpackedNonneg]

theorem Stored.isFinite (h : Stored u) : u.isFinite = true := by
  rcases u with ⟨_ | _⟩ | _ | _ | ⟨_ | _, m, e, hm⟩ <;> simp_all [Stored, UnpackedFloat.isFinite]

theorem Stored.value_nonneg (h : Stored u) : 0 ≤ unpackedValue u := by
  rcases u with ⟨_ | _⟩ | _ | _ | ⟨_ | _, m, e, hm⟩ <;> simp_all [Stored]
  positivity

/-- A full 53-bit mantissa at one exponent is at most a normal 52-bit one at a higher exponent. -/
theorem full_le_normal {e e' : Int} (h : e < e') : (2 : ℚ) ^ 53 * 2 ^ e ≤ 2 ^ 52 * 2 ^ e' :=
  calc (2 : ℚ) ^ 53 * 2 ^ e = 2 ^ (e + 53) := by rw [zpow_add₀ (by norm_num), mul_comm]; norm_cast
    _ ≤ 2 ^ (e' + 52) := zpow_le_zpow_right₀ (by norm_num) (by omega)
    _ = 2 ^ 52 * 2 ^ e' := by rw [zpow_add₀ (by norm_num), mul_comm]; norm_cast

/-- Of two stored finite values, the one with the smaller exponent is the smaller: its mantissa
is below `2^53` and the other's, being normal, is at least `2^52`. -/
theorem value_lt_of_exponent_lt {m m' : Nat} {e e' : Int} (hm : m < 2 ^ 53) (he : -1074 ≤ e)
    (hm' : 2 ^ 52 ≤ m' ∨ e' = -1074) (hlt : e < e') : (m : ℚ) * 2 ^ e < m' * 2 ^ e' := by
  have hnormal : (2 : ℚ) ^ 52 ≤ m' := by
    rcases hm' with h | h
    · exact_mod_cast h
    · omega
  calc (m : ℚ) * 2 ^ e < 2 ^ 53 * 2 ^ e := by gcongr; exact_mod_cast hm
    _ ≤ 2 ^ 52 * 2 ^ e' := full_le_normal hlt
    _ ≤ m' * 2 ^ e' := by gcongr

/-- On stored values IEEE `≤` is the order of the values. -/
theorem le_iff_value_le (hu : Stored u) (hv : Stored v) :
    u.le v = true ↔ unpackedValue u ≤ unpackedValue v := by
  rcases u with ⟨_ | _⟩ | _ | s | ⟨_ | _, m, e, hm⟩ <;> simp only [Stored] at hu <;>
  rcases v with ⟨_ | _⟩ | _ | s' | ⟨_ | _, m', e', hm'⟩ <;> simp only [Stored] at hv
  · simp [UnpackedFloat.le, UnpackedFloat.compare]
  · simp only [UnpackedFloat.le, UnpackedFloat.compare, unpackedValue_zero, unpackedValue_positive]
    simp only [Option.any_some, Ordering.isLE_lt, true_iff]
    positivity
  · simp only [UnpackedFloat.le, UnpackedFloat.compare, unpackedValue_zero, unpackedValue_positive]
    simp only [Option.any_some, Ordering.isLE_gt, Bool.false_eq_true, false_iff, not_le]
    positivity
  · obtain ⟨hmu, hel, -, hn⟩ := hu
    obtain ⟨hmu', hel', -, hn'⟩ := hv
    simp only [UnpackedFloat.le, UnpackedFloat.compare, Option.any_some, exponent_mantissa_isLE,
      unpackedValue_positive]
    constructor
    · rintro (hlt | ⟨rfl, hle⟩)
      · exact (value_lt_of_exponent_lt hmu hel hn' hlt).le
      · gcongr
    · intro hle
      rcases lt_trichotomy e e' with hlt | rfl | hgt
      · exact .inl hlt
      · refine .inr ⟨rfl, ?_⟩
        exact_mod_cast le_of_mul_le_mul_right hle (by positivity)
      · exact absurd hle (not_le.2 (value_lt_of_exponent_lt hmu' hel' hn hgt))

end Stored

section Bits

theorem toNat_implicit_append (m : BitVec 52) : (1#1 ++ m).toNat = 2 ^ 52 + m.toNat := by
  rw [BitVec.toNat_append, ← Nat.shiftLeft_add_eq_or_of_lt m.isLt]
  simp [Nat.shiftLeft_eq]

theorem binary64_bias : (Format.binary64.exponentBias : Int) = 1023 := by decide

/-- Bits read as a zero or a positive finite double give it in stored form: a normal double
has the implicit bit `2^52` and a biased exponent strictly between the zero and all-ones
patterns, a subnormal one the least exponent. -/
theorem stored_unpack (b : BitVec 64)
    (h0 : unpackedNonneg (UnpackedFloat.unpack .binary64 b) = true)
    (hf : (UnpackedFloat.unpack .binary64 b).isFinite = true) :
    Stored (UnpackedFloat.unpack .binary64 b) := by
  have hmant : (@unpackMantissa .binary64 b).toNat < 2 ^ 52 := (@unpackMantissa .binary64 b).isLt
  have hexp : (@unpackExponent .binary64 b).toNat < 2 ^ 11 := (@unpackExponent .binary64 b).isLt
  unfold UnpackedFloat.unpack at h0 hf ⊢
  dsimp only at h0 hf ⊢
  generalize Sign.ofBitVec (@unpackSign .binary64 b) = s at h0 hf ⊢
  split_ifs at h0 hf ⊢ with hinf hnan hzero hz
  · simp [UnpackedFloat.isFinite] at hf
  · simp [UnpackedFloat.isFinite] at hf
  · trivial
  · cases s with
    | negative => simp [unpackedNonneg] at h0
    | positive =>
      simp only [Stored, hzero, BitVec.toNat_zero, Nat.cast_zero, binary64_bias, Nat.cast_ofNat]
      omega
  · cases s with
    | negative => simp [unpackedNonneg] at h0
    | positive =>
      have hne0 : (@unpackExponent .binary64 b).toNat ≠ 0 := fun h => hzero (BitVec.eq_of_toNat_eq h)
      have hne1 : (@unpackExponent .binary64 b).toNat ≠ 2047 := fun h => hinf (BitVec.eq_of_toNat_eq h)
      simp only [Stored, toNat_implicit_append, binary64_bias, Nat.cast_ofNat]
      omega

/-- Packing a stored value into bits and reading them back gives it again. -/
theorem unpack_pack_of_stored {u : UnpackedFloat} (h : Stored u) :
    UnpackedFloat.unpack .binary64 (UnpackedFloat.pack .binary64 u) = u := by
  rcases u with ⟨_ | _⟩ | _ | s | ⟨_ | _, m, e, hm⟩ <;> simp only [Stored] at h
  · simp [UnpackedFloat.pack, packedZero, UnpackedFloat.unpack]
  · obtain ⟨hmu, hel, heu, hn⟩ := h
    have hm53 : m.log2 < 53 := (Nat.log2_lt hm.ne').2 hmu
    simp only [UnpackedFloat.pack, binary64_bias, Nat.cast_ofNat]
    split_ifs with hover hnormal
    · exfalso
      have : (2 : Nat) ^ Format.binary64.exponentBits = 2048 := rfl
      omega
    · -- a normal double: biased exponent `e + 1075` in `[1, 2046]`, mantissa without its top bit
      have h52 : 2 ^ 52 ≤ m := (Nat.le_log2 hm.ne').1 (by simp [Format.mantissaBits] at hnormal; omega)
      have hk : (BitVec.ofNat 11 (e + 1023 + 52).toNat).toNat = (e + 1075).toNat := by
        rw [BitVec.toNat_ofNat]
        omega
      have hinf : BitVec.ofNat 11 (e + 1023 + 52).toNat ≠ -1#11 := fun h => by
        have := congrArg BitVec.toNat h
        rw [hk] at this
        simp at this
        omega
      have hzero : BitVec.ofNat 11 (e + 1023 + 52).toNat ≠ 0#11 := fun h => by
        have := congrArg BitVec.toNat h
        rw [hk] at this
        simp at this
        omega
      have hmant : (BitVec.ofNat 52 m).toNat = m - 2 ^ 52 := by
        rw [BitVec.toNat_ofNat]
        omega
      simp only [UnpackedFloat.unpack, unpackExponent_packComponents, unpackMantissa_packComponents,
        unpackSign_packComponents, ofBitVec_toBitVec, hinf, hzero, if_false, finite.injEq, true_and,
        toNat_implicit_append, hmant, hk, binary64_bias, Nat.cast_ofNat]
      omega
    · -- a subnormal double: exponent pattern zero, mantissa below `2^52`
      have hsub : m < 2 ^ 52 := (Nat.log2_lt hm.ne').1 (by simp [Format.mantissaBits] at hnormal; omega)
      have he : e = -1074 := hn.resolve_left (by omega)
      have hmant : (BitVec.ofNat 52 m).toNat = m := by
        rw [BitVec.toNat_ofNat]
        omega
      have hzero : BitVec.ofNat 52 m ≠ 0#52 := fun h => by
        have := congrArg BitVec.toNat h
        rw [hmant] at this
        simp at this
        omega
      simp only [UnpackedFloat.unpack, unpackExponent_packComponents, unpackMantissa_packComponents,
        unpackSign_packComponents, ofBitVec_toBitVec, hzero, hmant, binary64_bias, Nat.cast_ofNat]
      simp only [show (0#11 : BitVec 11) ≠ -1#11 by decide, if_false, if_true, dite_false,
        BitVec.toNat_zero, finite.injEq, true_and]
      omega

end Bits

section Doubles

/-- The value of a double: `m · 2^e` for a finite one, zero for the others. -/
def doubleValue (x : Float) : ℚ := unpackedValue x.toModel.unpack

/-- A zero or a positive finite double. -/
structure FiniteNonneg (x : Float) : Prop where
  nonneg : NonnegFloat x
  finite : x.isFinite = true

variable {x y lo hi : Float}

theorem FiniteNonneg.stored (h : FiniteNonneg x) : Stored x.toModel.unpack :=
  stored_unpack _ h.nonneg h.finite

theorem FiniteNonneg.value_nonneg (h : FiniteNonneg x) : 0 ≤ doubleValue x :=
  h.stored.value_nonneg

/-- The double that packs a stored value reads back as that value. -/
theorem unpack_ofModel_pack {u : UnpackedFloat} (h : Stored u) :
    (Float.ofModel (Float.Model.pack u)).toModel.unpack = u :=
  unpack_pack_of_stored h

theorem finiteNonneg_ofModel_pack {u : UnpackedFloat} (h : Stored u) :
    FiniteNonneg (Float.ofModel (Float.Model.pack u)) := by
  constructor
  · unfold NonnegFloat
    rw [unpack_ofModel_pack h]
    exact h.nonneg
  · change (Float.ofModel (Float.Model.pack u)).toModel.unpack.isFinite = true
    rw [unpack_ofModel_pack h]
    exact h.isFinite

/-- On zeros and positive finite doubles IEEE `≤` is the order of the values. -/
theorem le_iff_doubleValue_le (hx : FiniteNonneg x) (hy : FiniteNonneg y) :
    x ≤ y ↔ doubleValue x ≤ doubleValue y :=
  float_le_iff.trans (le_iff_value_le hx.stored hy.stored)

theorem nonneg_of_le {a b : UnpackedFloat} (ha : unpackedNonneg a = true) (h : a.le b = true) :
    unpackedNonneg b = true := by
  rcases a with ⟨_ | _⟩ | _ | s | ⟨_ | _, m, e, hm⟩ <;>
  rcases b with ⟨_ | _⟩ | _ | s' | ⟨_ | _, m', e', hm'⟩ <;>
  simp_all [unpackedNonneg, UnpackedFloat.le, UnpackedFloat.compare, sign_compare_isLE]

/-- A double between a zero or positive finite double and a finite one is itself a zero or a
positive finite double. -/
theorem FiniteNonneg.of_le_of_le (hlo : FiniteNonneg lo) (hhi : hi.isFinite = true) (h1 : lo ≤ x)
    (h2 : x ≤ hi) : FiniteNonneg x :=
  ⟨nonneg_of_le hlo.nonneg (float_le_iff.1 h1), isFinite_of_le_of_le hlo.finite hhi h1 h2⟩

end Doubles

end TagAtlas
