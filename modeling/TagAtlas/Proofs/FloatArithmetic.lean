import TagAtlas.Proofs.FloatRounding
/-! Arithmetic on zeros and positive finite doubles. Below `2^1023`, a sum, a difference that is
not negative and a product of such doubles is again one, whose value is `roundDouble` of the
exact result. With `roundDouble` monotone this makes each operation monotone in the values of its
arguments, and `roundNat` is `⌊v + 1/2⌋` of the value `v`, capped at the largest 64-bit word. -/
namespace TagAtlas

open Float.Model Float.Model.UnpackedFloat

section Unpacked

variable {u v : UnpackedFloat}

/-- The mantissa widened to a lower exponent keeps its value. -/
theorem aligned_value (m : Nat) {e t : Int} (h : t ≤ e) :
    ((decreaseExponent m e t).1 : ℚ) * 2 ^ t = m * 2 ^ e := by
  have hexp : (decreaseExponent m e t).2 = t := by
    simp only [decreaseExponent]
    omega
  rw [← decreaseExponent_value m e t, hexp]

theorem add_spec (hu : Stored u) (hv : Stored v)
    (hb : unpackedValue u + unpackedValue v < 2 ^ 1023) :
    Stored (UnpackedFloat.add .binary64 u v) ∧
      unpackedValue (UnpackedFloat.add .binary64 u v) = roundDouble (unpackedValue u + unpackedValue v) := by
  rcases u with ⟨_ | _⟩ | _ | s | ⟨_ | _, m, e, hm⟩ <;> simp only [Stored] at hu <;>
  rcases v with ⟨_ | _⟩ | _ | s' | ⟨_ | _, m', e', hm'⟩ <;> simp only [Stored] at hv
  · simp only [UnpackedFloat.add]
    split_ifs <;> simp [Stored]
  · simp only [UnpackedFloat.add, unpackedValue_zero, zero_add]
    exact ⟨hv, (roundDouble_stored (u := .finite .positive m' e' hm') hv).symm⟩
  · simp only [UnpackedFloat.add, unpackedValue_zero, add_zero]
    exact ⟨hu, (roundDouble_stored (u := .finite .positive m e hm) hu).symm⟩
  · -- both mantissas are widened to the smaller exponent and added
    have hsum : (((decreaseExponent m e (min e e')).1 + (decreaseExponent m' e' (min e e')).1 : Nat) : ℚ) *
        2 ^ min e e' = unpackedValue (.finite .positive m e hm) + unpackedValue (.finite .positive m' e' hm') := by
      rw [unpackedValue_positive, unpackedValue_positive, ← aligned_value m (min_le_left e e'),
        ← aligned_value m' (min_le_right e e')]
      push_cast
      ring
    simp only [UnpackedFloat.add, Sign.apply]
    rw [← hsum]
    exact_mod_cast normalize_spec (by positivity) _ (by exact_mod_cast hsum ▸ hb)

/-- A difference that is not negative. A positive value is never subtracted from a zero, since
it would exceed it. -/
theorem sub_spec (hu : Stored u) (hv : Stored v) (hle : unpackedValue v ≤ unpackedValue u)
    (hb : unpackedValue u < 2 ^ 1023) :
    Stored (UnpackedFloat.sub .binary64 u v) ∧
      unpackedValue (UnpackedFloat.sub .binary64 u v) = roundDouble (unpackedValue u - unpackedValue v) := by
  rcases u with ⟨_ | _⟩ | _ | s | ⟨_ | _, m, e, hm⟩ <;> simp only [Stored] at hu <;>
  rcases v with ⟨_ | _⟩ | _ | s' | ⟨_ | _, m', e', hm'⟩ <;> simp only [Stored] at hv
  · simp only [UnpackedFloat.sub]
    split_ifs <;> simp [Stored]
  · exfalso
    simp only [unpackedValue_zero, unpackedValue_positive] at hle
    have : (0 : ℚ) < m' * 2 ^ e' := by positivity
    linarith
  · simp only [UnpackedFloat.sub, unpackedValue_zero, sub_zero]
    exact ⟨hu, (roundDouble_stored (u := .finite .positive m e hm) hu).symm⟩
  · -- both mantissas are widened to the smaller exponent and subtracted
    have hdiff : ((((decreaseExponent m e (min e e')).1 : Int) - (decreaseExponent m' e' (min e e')).1 : Int) : ℚ) *
        2 ^ min e e' = unpackedValue (.finite .positive m e hm) - unpackedValue (.finite .positive m' e' hm') := by
      rw [unpackedValue_positive, unpackedValue_positive, ← aligned_value m (min_le_left e e'),
        ← aligned_value m' (min_le_right e e')]
      push_cast
      ring
    have hnonneg : (decreaseExponent m' e' (min e e')).1 ≤ (decreaseExponent m e (min e e')).1 := by
      have h := hdiff ▸ sub_nonneg.2 hle
      have hq : (0 : ℚ) ≤ ((((decreaseExponent m e (min e e')).1 : Int) - (decreaseExponent m' e' (min e e')).1 : Int) : ℚ) :=
        nonneg_of_mul_nonneg_left h (by positivity)
      have hq' : (0 : Int) ≤ ((decreaseExponent m e (min e e')).1 : Int) - (decreaseExponent m' e' (min e e')).1 := by
        exact_mod_cast hq
      omega
    have hbound : ((((decreaseExponent m e (min e e')).1 : Int) - (decreaseExponent m' e' (min e e')).1 : Int) : ℚ) *
        2 ^ min e e' < 2 ^ 1023 := by
      rw [hdiff]
      exact (sub_le_self _ (Stored.value_nonneg (u := .finite .positive m' e' hm') hv)).trans_lt hb
    have hspec := normalize_spec (by omega) _ hbound
    simp only [UnpackedFloat.sub, Sign.apply]
    rwa [hdiff] at hspec

/-- The product of two positive stored values is rounded from an exponent that is not past its
target: either the product has at least 53 bits, or both factors are subnormal. -/
theorem mul_exponent_le {m m' : Nat} {e e' : Int} (hm : 0 < m) (hm' : 0 < m')
    (hn : 2 ^ 52 ≤ m ∨ e = -1074) (hn' : 2 ^ 52 ≤ m' ∨ e' = -1074) :
    e + e' ≤ Format.binary64.targetExponent (totalExponent (m * m') (e + e')) := by
  simp only [Format.targetExponent, totalExponent, binary64_minExponent, binary64_mantissaBits]
  by_cases hbig : 2 ^ 52 ≤ m * m'
  · have := (Nat.le_log2 (Nat.mul_pos hm hm').ne').2 hbig
    omega
  · have hsmall : m < 2 ^ 52 ∧ m' < 2 ^ 52 := by
      constructor
      · exact lt_of_le_of_lt (Nat.le_mul_of_pos_right m hm') (by omega)
      · exact lt_of_le_of_lt (Nat.le_mul_of_pos_left m' hm) (by omega)
    omega

theorem mul_spec (hu : Stored u) (hv : Stored v)
    (hb : unpackedValue u * unpackedValue v < 2 ^ 1023) :
    Stored (UnpackedFloat.mul .binary64 u v) ∧
      unpackedValue (UnpackedFloat.mul .binary64 u v) = roundDouble (unpackedValue u * unpackedValue v) := by
  rcases u with ⟨_ | _⟩ | _ | s | ⟨_ | _, m, e, hm⟩ <;> simp only [Stored] at hu <;>
  rcases v with ⟨_ | _⟩ | _ | s' | ⟨_ | _, m', e', hm'⟩ <;> simp only [Stored] at hv
  · simp [UnpackedFloat.mul, Stored]
  · simp [UnpackedFloat.mul, Stored]
  · simp [UnpackedFloat.mul, Stored]
  · obtain ⟨-, -, -, hn⟩ := hu
    obtain ⟨-, -, -, hn'⟩ := hv
    have hprod : ((m * m' : Nat) : ℚ) * 2 ^ (e + e') =
        unpackedValue (.finite .positive m e hm) * unpackedValue (.finite .positive m' e' hm') := by
      rw [unpackedValue_positive, unpackedValue_positive, zpow_add₀ (by norm_num)]
      push_cast
      ring
    simp only [UnpackedFloat.mul]
    rw [← hprod]
    exact roundWithAccuracy_spec (Nat.mul_pos hm hm') (mul_exponent_le hm hm' hn hn')
      (hprod ▸ hb)

end Unpacked

section Doubles

variable {x y : Float}

/-- A stored result, packed into a double, reads back as that double. -/
theorem of_stored_pack {u : UnpackedFloat} {q : ℚ} (h : Stored u ∧ unpackedValue u = q) :
    FiniteNonneg (Float.ofModel (Float.Model.pack u)) ∧
      doubleValue (Float.ofModel (Float.Model.pack u)) = q := by
  refine ⟨finiteNonneg_ofModel_pack h.1, ?_⟩
  unfold doubleValue
  rw [unpack_ofModel_pack h.1, h.2]

theorem FiniteNonneg.add (hx : FiniteNonneg x) (hy : FiniteNonneg y)
    (hb : doubleValue x + doubleValue y < 2 ^ 1023) :
    FiniteNonneg (x + y) ∧ doubleValue (x + y) = roundDouble (doubleValue x + doubleValue y) :=
  of_stored_pack (add_spec hx.stored hy.stored hb)

theorem FiniteNonneg.sub (hx : FiniteNonneg x) (hy : FiniteNonneg y)
    (hle : doubleValue y ≤ doubleValue x) (hb : doubleValue x < 2 ^ 1023) :
    FiniteNonneg (x - y) ∧ doubleValue (x - y) = roundDouble (doubleValue x - doubleValue y) :=
  of_stored_pack (sub_spec hx.stored hy.stored hle hb)

theorem FiniteNonneg.mul (hx : FiniteNonneg x) (hy : FiniteNonneg y)
    (hb : doubleValue x * doubleValue y < 2 ^ 1023) :
    FiniteNonneg (x * y) ∧ doubleValue (x * y) = roundDouble (doubleValue x * doubleValue y) :=
  of_stored_pack (mul_spec hx.stored hy.stored hb)

/-- A double rounds to itself. -/
theorem FiniteNonneg.roundDouble_eq (hx : FiniteNonneg x) : roundDouble (doubleValue x) = doubleValue x :=
  roundDouble_stored hx.stored

/-- A value between zero and a double rounds to at most that double. -/
theorem FiniteNonneg.roundDouble_le (hx : FiniteNonneg x) {q : ℚ} (h0 : 0 ≤ q) (h : q ≤ doubleValue x) :
    roundDouble q ≤ doubleValue x :=
  (roundDouble_mono h0 h).trans_eq hx.roundDouble_eq

theorem floor_add_half_natCast (n : Nat) : ⌊(n : ℚ) + 1 / 2⌋₊ = n := by
  rw [Nat.floor_eq_iff (by positivity)]
  constructor <;> linarith

/-- `roundNat` of a zero or a positive finite double rounds its value half up, capped at the
largest 64-bit word. -/
theorem roundNat_eq (hx : FiniteNonneg x) :
    roundNat x = min ⌊doubleValue x + 1 / 2⌋₊ (UInt64.size - 1) := by
  have hs := hx.stored
  unfold roundNat doubleValue
  generalize x.toModel.unpack = u at hs ⊢
  rcases u with ⟨_ | _⟩ | _ | s | ⟨_ | _, m, e, hm⟩ <;> simp only [Stored] at hs
  · simp only [unpackedValue_zero, zero_add]
    rw [Nat.floor_eq_zero.2 (by norm_num)]
    rfl
  · dsimp only
    rw [unpackedValue_positive]
    congr 1
    split_ifs with he
    · -- a whole value `m · 2^e`
      have hwhole : (m : ℚ) * 2 ^ e = ((m <<< e.toNat : Nat) : ℚ) := by
        rw [Nat.shiftLeft_eq]
        push_cast
        rw [← zpow_natCast, Int.toNat_of_nonneg he]
      rw [hwhole, floor_add_half_natCast]
    · -- below one unit: `m / 2^k + 1/2 = (2m + 2^k) / 2^(k+1)`
      obtain ⟨k, rfl⟩ : ∃ k : Nat, e = -(k : Int) := ⟨(-e).toNat, by omega⟩
      have hfloor : ⌊(m : ℚ) * 2 ^ (-(k : Int)) + 1 / 2⌋₊ = ((m <<< 1) + (1 <<< k)) / 2 ^ (k + 1) := by
        rw [← Nat.floor_div_eq_div (K := ℚ)]
        congr 1
        rw [zpow_neg, zpow_natCast, Nat.shiftLeft_eq, Nat.shiftLeft_eq]
        push_cast
        field_simp
        ring
      rw [hfloor, Nat.shiftRight_eq_div_pow, neg_neg, Int.toNat_natCast]

/-- `roundNat` is monotone on zeros and positive finite doubles. -/
theorem roundNat_mono (hx : FiniteNonneg x) (hy : FiniteNonneg y) (h : x ≤ y) :
    roundNat x ≤ roundNat y := by
  rw [roundNat_eq hx, roundNat_eq hy]
  have hv := (le_iff_doubleValue_le hx hy).1 h
  exact min_le_min_right _ (Nat.floor_le_floor (by linarith))

end Doubles

section Affine

/-! The thresholds of a query are `a + b · x`, `a + b · (1 - x)` and `a - b · x` for a
consolidation `x ∈ [0, 1]` and small constants `a` and `b`. -/

theorem finiteNonneg_zero : FiniteNonneg 0.0 := ⟨rfl, rfl⟩

theorem finiteNonneg_one : FiniteNonneg 1.0 := ⟨rfl, rfl⟩

theorem doubleValue_zero : doubleValue 0.0 = 0 := by
  have h : (0.0 : Float).toModel.unpack = .zero .positive := rfl
  rw [doubleValue, h, unpackedValue_zero]

theorem doubleValue_one : doubleValue 1.0 = 1 := by
  have h : (1.0 : Float).toModel.unpack = .finite .positive (2 ^ 52) (-52) (by decide) := rfl
  rw [doubleValue, h, unpackedValue_positive]
  norm_num

theorem doubleValue_two_pow_ten : doubleValue 1024.0 = 1024 := by
  have h : (1024.0 : Float).toModel.unpack = .finite .positive (2 ^ 52) (-42) (by decide) := rfl
  rw [doubleValue, h, unpackedValue_positive]
  norm_num

theorem finiteNonneg_two_pow_ten : FiniteNonneg 1024.0 := ⟨rfl, rfl⟩

/-- Sums of the constants stay far below the overflow bound. -/
theorem lt_overflow_of_le {q : ℚ} (h : q ≤ 2048) : q < 2 ^ 1023 :=
  calc q ≤ 2 ^ 11 := by norm_num [h]
    _ < 2 ^ 1023 := pow_lt_pow_right₀ (by norm_num) (by norm_num)

instance : DecidablePred FiniteNonneg := fun x =>
  decidable_of_iff (unpackedNonneg x.toModel.unpack = true ∧ x.isFinite = true)
    ⟨fun h => ⟨h.1, h.2⟩, fun h => ⟨h.1, h.2⟩⟩

/-- A constant of a threshold formula: a zero or a positive finite double at most `1024`. -/
structure SmallConst (a : Float) : Prop where
  finiteNonneg : FiniteNonneg a
  le_bound : a ≤ 1024.0

instance : DecidablePred SmallConst := fun a =>
  decidable_of_iff (FiniteNonneg a ∧ a ≤ 1024.0) ⟨fun h => ⟨h.1, h.2⟩, fun h => ⟨h.1, h.2⟩⟩

variable {a b x y : Float}

theorem FiniteNonneg.zero_le (hx : FiniteNonneg x) : 0.0 ≤ x := by
  rw [le_iff_doubleValue_le finiteNonneg_zero hx, doubleValue_zero]
  exact hx.value_nonneg

theorem value_le_one (hx : FiniteNonneg x) (h : x ≤ 1.0) : doubleValue x ≤ 1 :=
  doubleValue_one ▸ (le_iff_doubleValue_le hx finiteNonneg_one).1 h

theorem SmallConst.value_le (ha : SmallConst a) : doubleValue a ≤ 1024 :=
  doubleValue_two_pow_ten ▸ (le_iff_doubleValue_le ha.finiteNonneg finiteNonneg_two_pow_ten).1 ha.le_bound

/-- A constant times `x ∈ [0, 1]` is rounded from the exact product, and is at most the
constant. -/
theorem scale_spec (hb : SmallConst b) (hx : FiniteNonneg x) (hx1 : x ≤ 1.0) :
    FiniteNonneg (b * x) ∧ doubleValue (b * x) = roundDouble (doubleValue b * doubleValue x) ∧
      doubleValue (b * x) ≤ doubleValue b := by
  have hb0 := hb.finiteNonneg.value_nonneg
  have hprod : doubleValue b * doubleValue x ≤ doubleValue b :=
    mul_le_of_le_one_right hb0 (value_le_one hx hx1)
  obtain ⟨hfin, hval⟩ := hb.finiteNonneg.mul hx (lt_overflow_of_le (by linarith [hb.value_le]))
  exact ⟨hfin, hval, hval ▸ hb.finiteNonneg.roundDouble_le (mul_nonneg hb0 hx.value_nonneg) hprod⟩

theorem scale_mono (hb : SmallConst b) (hx : FiniteNonneg x) (hy : FiniteNonneg y) (hy1 : y ≤ 1.0)
    (hxy : x ≤ y) : doubleValue (b * x) ≤ doubleValue (b * y) := by
  have hb0 := hb.finiteNonneg.value_nonneg
  rw [(scale_spec hb hx (float_le_trans hxy hy1)).2.1, (scale_spec hb hy hy1).2.1]
  exact roundDouble_mono (mul_nonneg hb0 hx.value_nonneg)
    (mul_le_mul_of_nonneg_left ((le_iff_doubleValue_le hx hy).1 hxy) hb0)

/-- `a + b · x` for constants `a`, `b` and `x ∈ [0, 1]`. -/
theorem affine_spec (ha : SmallConst a) (hb : SmallConst b) (hx : FiniteNonneg x) (hx1 : x ≤ 1.0) :
    FiniteNonneg (a + b * x) ∧
      doubleValue (a + b * x) = roundDouble (doubleValue a + doubleValue (b * x)) := by
  obtain ⟨hbx, -, hle⟩ := scale_spec hb hx hx1
  exact ha.finiteNonneg.add hbx (lt_overflow_of_le (by linarith [ha.value_le, hb.value_le]))

/-- `a + b · x` grows with `x ∈ [0, 1]`. -/
theorem affine_mono (ha : SmallConst a) (hb : SmallConst b) (hx : FiniteNonneg x) (hy : FiniteNonneg y)
    (hy1 : y ≤ 1.0) (hxy : x ≤ y) : a + b * x ≤ a + b * y := by
  have hx1 := float_le_trans hxy hy1
  obtain ⟨hsx, hsxv⟩ := affine_spec ha hb hx hx1
  obtain ⟨hsy, hsyv⟩ := affine_spec ha hb hy hy1
  have hscale := scale_mono hb hx hy hy1 hxy
  rw [le_iff_doubleValue_le hsx hsy, hsxv, hsyv]
  exact roundDouble_mono
    (add_nonneg ha.finiteNonneg.value_nonneg (scale_spec hb hx hx1).1.value_nonneg) (by linarith)

/-- `1 - x` for `x ∈ [0, 1]` is again in `[0, 1]`. -/
theorem complement_spec (hx : FiniteNonneg x) (hx1 : x ≤ 1.0) :
    FiniteNonneg (1.0 - x) ∧ doubleValue (1.0 - x) = roundDouble (1 - doubleValue x) ∧ 1.0 - x ≤ 1.0 := by
  have hvx := value_le_one hx hx1
  obtain ⟨hfin, hval⟩ := finiteNonneg_one.sub hx (by rwa [doubleValue_one])
    (by rw [doubleValue_one]; exact lt_overflow_of_le (by norm_num))
  rw [doubleValue_one] at hval
  refine ⟨hfin, hval, (le_iff_doubleValue_le hfin finiteNonneg_one).2 ?_⟩
  rw [hval]
  exact finiteNonneg_one.roundDouble_le (by linarith) (by rw [doubleValue_one]; linarith [hx.value_nonneg])

/-- `1 - x` falls as `x ∈ [0, 1]` grows. -/
theorem complement_anti (hx : FiniteNonneg x) (hy : FiniteNonneg y) (hy1 : y ≤ 1.0) (hxy : x ≤ y) :
    1.0 - y ≤ 1.0 - x := by
  obtain ⟨hfx, hvx, -⟩ := complement_spec hx (float_le_trans hxy hy1)
  obtain ⟨hfy, hvy, -⟩ := complement_spec hy hy1
  have hv := (le_iff_doubleValue_le hx hy).1 hxy
  rw [le_iff_doubleValue_le hfy hfx, hvx, hvy]
  exact roundDouble_mono (by linarith [value_le_one hy hy1]) (by linarith)

/-- `a - b · x` for constants `b ≤ a` and `x ∈ [0, 1]` is at most `a`. -/
theorem descent_spec (ha : SmallConst a) (hb : SmallConst b) (hba : b ≤ a) (hx : FiniteNonneg x)
    (hx1 : x ≤ 1.0) :
    FiniteNonneg (a - b * x) ∧
      doubleValue (a - b * x) = roundDouble (doubleValue a - doubleValue (b * x)) ∧ a - b * x ≤ a := by
  obtain ⟨hbx, -, hle⟩ := scale_spec hb hx hx1
  have hvba := (le_iff_doubleValue_le hb.finiteNonneg ha.finiteNonneg).1 hba
  obtain ⟨hfin, hval⟩ := ha.finiteNonneg.sub hbx (by linarith)
    (lt_overflow_of_le (by linarith [ha.value_le]))
  refine ⟨hfin, hval, (le_iff_doubleValue_le hfin ha.finiteNonneg).2 ?_⟩
  rw [hval]
  exact ha.finiteNonneg.roundDouble_le (by linarith) (by linarith [hbx.value_nonneg])

/-- `a - b · x` falls as `x ∈ [0, 1]` grows. -/
theorem descent_anti (ha : SmallConst a) (hb : SmallConst b) (hba : b ≤ a) (hx : FiniteNonneg x)
    (hy : FiniteNonneg y) (hy1 : y ≤ 1.0) (hxy : x ≤ y) : a - b * y ≤ a - b * x := by
  obtain ⟨hfx, hvx, -⟩ := descent_spec ha hb hba hx (float_le_trans hxy hy1)
  obtain ⟨hfy, hvy, -⟩ := descent_spec ha hb hba hy hy1
  have hscale := scale_mono hb hx hy hy1 hxy
  have hby := (scale_spec hb hy hy1).2.2
  have hvba := (le_iff_doubleValue_le hb.finiteNonneg ha.finiteNonneg).1 hba
  rw [le_iff_doubleValue_le hfy hfx, hvx, hvy]
  exact roundDouble_mono (by linarith) (by linarith)

end Affine

end TagAtlas
