import TagAtlas.Proofs.FloatValue
/-! Rounding to a double. The model rounds `m · 2^e` by shifting the mantissa right until its
exponent reaches the last bit a double keeps, collecting the shifted-out bits into a round bit
and a sticky bit, and rounding to nearest with ties to even; a carry to `2^53` is shifted once
more. Read on rationals this is `roundDouble`: the nearest multiple of the double's quantum,
ties to an even mantissa. `roundDouble` is monotone, and the model's rounding of a positive
value below `2^1023` gives a stored double of that value. -/
namespace TagAtlas

open Float.Model Float.Model.UnpackedFloat

section NearestEven

/-- The integer nearest to a rational, a tie going to the even one. -/
def roundEven (x : ℚ) : ℤ :=
  if Int.fract x < 1 / 2 then ⌊x⌋
  else if 1 / 2 < Int.fract x then ⌊x⌋ + 1
  else if ⌊x⌋ % 2 = 0 then ⌊x⌋ else ⌊x⌋ + 1

theorem floor_le_roundEven (x : ℚ) : ⌊x⌋ ≤ roundEven x := by
  unfold roundEven
  split_ifs <;> omega

theorem roundEven_le_floor_add_one (x : ℚ) : roundEven x ≤ ⌊x⌋ + 1 := by
  unfold roundEven
  split_ifs <;> omega

@[simp] theorem roundEven_intCast (n : ℤ) : roundEven n = n := by
  simp [roundEven]

@[simp] theorem roundEven_zero : roundEven 0 = 0 := by
  simp [roundEven]

/-- Nearest-even rounding is monotone: past the next integer both sides are ordered by their
floors, and under one floor the fractional parts are ordered. -/
theorem roundEven_mono {x y : ℚ} (h : x ≤ y) : roundEven x ≤ roundEven y := by
  rcases (Int.floor_le_floor h).lt_or_eq with hlt | heq
  · have hx := roundEven_le_floor_add_one x
    have hy := floor_le_roundEven y
    omega
  · have hfract : Int.fract x ≤ Int.fract y := by
      unfold Int.fract
      rw [heq]
      linarith
    unfold roundEven
    rw [heq]
    split_ifs <;> first | omega | (exfalso; linarith)

theorem roundEven_le_of_le {x : ℚ} {n : ℤ} (h : x ≤ n) : roundEven x ≤ n := by
  simpa using roundEven_mono h

theorem le_roundEven_of_le {x : ℚ} {n : ℤ} (h : (n : ℚ) ≤ x) : n ≤ roundEven x := by
  simpa using roundEven_mono h

end NearestEven

section ShiftBits

/-- What an extended mantissa says of the exact value `x` it stands for: its mantissa is `⌊x⌋`,
its round bit whether the rest reaches one half, and its sticky bit whether any rest remains
beside that half. -/
def Represents (em : ExtendedMantissa) (x : ℚ) : Prop :=
  match em.roundBit, em.stickyBit with
  | false, false => x = em.mantissa
  | false, true => em.mantissa < x ∧ x < em.mantissa + 1 / 2
  | true, false => x = em.mantissa + 1 / 2
  | true, true => em.mantissa + 1 / 2 < x ∧ x < em.mantissa + 1

variable {em : ExtendedMantissa} {x : ℚ}

theorem represents_exact (m : Nat) :
    Represents (ExtendedMantissa.ofMantissaAndAccuracy m .exact) m := by
  simp [Represents, ExtendedMantissa.ofMantissaAndAccuracy]

theorem Represents.floor (h : Represents em x) : ⌊x⌋ = em.mantissa := by
  rw [Int.floor_eq_iff]
  rcases em with ⟨m, _ | _, _ | _⟩ <;> simp only [Represents] at h
  all_goals constructor <;> push_cast <;> linarith

theorem Represents.roundedMantissa (h : Represents em x) :
    (em.roundedMantissa : ℤ) = roundEven x := by
  have hfloor := h.floor
  have hfract : Int.fract x = x - em.mantissa := by rw [Int.fract, hfloor]; push_cast; ring
  rcases em with ⟨m, _ | _, _ | _⟩ <;> simp only [Represents] at h <;>
    simp only [ExtendedMantissa.roundedMantissa, ExtendedMantissa.accuracy,
      Accuracy.roundToNearestEven, roundEven, hfloor, hfract] at hfract ⊢
  all_goals split_ifs <;> first | push_cast; omega | (exfalso; linarith)

/-- Shifting one bit out halves the value: the old low bit becomes the round bit and the old
round and sticky bits fold into the sticky bit. -/
theorem Represents.shiftRightOne (h : Represents em x) : Represents em.shiftRightOne (x / 2) := by
  rcases em with ⟨m, r, t⟩
  have hsplit : (m : ℚ) = 2 * (m / 2 : Nat) + (m % 2 : Nat) := by
    norm_cast
    omega
  rcases Nat.mod_two_eq_zero_or_one m with hpar | hpar <;>
    rw [hpar] at hsplit <;> push_cast at hsplit <;>
    rcases r with _ | _ <;> rcases t with _ | _ <;>
    simp only [Represents, ExtendedMantissa.shiftRightOne, hpar, Bool.or_false, Bool.or_true,
      show ((0 : Nat) != 0) = false from rfl, show ((1 : Nat) != 0) = true from rfl]
      at h ⊢ <;>
    first | (constructor <;> linarith) | linarith

theorem Represents.shiftRight (h : Represents em x) (n : Nat) :
    Represents (em >>> n) (x / 2 ^ n) := by
  induction n with
  | zero =>
    change Represents em (x / 2 ^ 0)
    simpa using h
  | succ n ih =>
    change Represents (ExtendedMantissa.shiftRightOne (em >>> n)) _
    rw [pow_succ, ← div_div]
    exact ih.shiftRightOne

theorem represents_shift (m k : Nat) :
    Represents (ExtendedMantissa.ofMantissaAndAccuracy m .exact >>> k) (m / 2 ^ k) :=
  (represents_exact m).shiftRight k

end ShiftBits

section Quantum

/-- The exponent of the last bit that a double near `q > 0` keeps: 52 below the leading bit of
`q`, but never below the subnormal exponent `-1074`. -/
def quantumExponent (q : ℚ) : ℤ := max (Int.log 2 q - 52) (-1074)

/-- The double nearest to `q ≥ 0`, ties to an even mantissa, as a rational (overflow to infinity
is left out). -/
def roundDouble (q : ℚ) : ℚ := roundEven (q / 2 ^ quantumExponent q) * 2 ^ quantumExponent q

variable {q q' : ℚ}

@[simp] theorem roundDouble_zero : roundDouble 0 = 0 := by
  simp [roundDouble]

theorem quantumExponent_mono (h0 : 0 < q) (h : q ≤ q') : quantumExponent q ≤ quantumExponent q' := by
  have hlog : Int.log 2 q ≤ Int.log 2 q' := Int.log_mono_right h0 h
  unfold quantumExponent
  omega

/-- The scaled value has at most 53 bits: it is below `2^53`. -/
theorem div_quantum_lt (h0 : 0 ≤ q) : q / 2 ^ quantumExponent q < 2 ^ 53 := by
  rcases h0.lt_or_eq with hpos | rfl
  · rw [div_lt_iff₀ (by positivity)]
    calc q < 2 ^ (Int.log 2 q + 1) := by exact_mod_cast Int.lt_zpow_succ_log_self (by norm_num) q
      _ ≤ 2 ^ ((53 : ℤ) + quantumExponent q) :=
          zpow_le_zpow_right₀ (by norm_num) (by unfold quantumExponent; omega)
      _ = 2 ^ 53 * 2 ^ quantumExponent q := by rw [zpow_add₀ (by norm_num)]; norm_cast
  · simp

/-- Above the subnormal range the scaled value has its leading bit at `2^52`. -/
theorem normal_le_div_quantum (h0 : 0 < q) (h : quantumExponent q ≠ -1074) :
    2 ^ 52 ≤ q / 2 ^ quantumExponent q := by
  have hq : quantumExponent q = Int.log 2 q - 52 := by unfold quantumExponent at h ⊢; omega
  rw [le_div_iff₀ (by positivity), hq]
  calc (2 : ℚ) ^ 52 * 2 ^ (Int.log 2 q - 52) = 2 ^ Int.log 2 q := by
        rw [zpow_sub₀ (by norm_num)]; field_simp
    _ ≤ q := by exact_mod_cast Int.zpow_log_le_self (by norm_num) h0

theorem roundEven_div_quantum_le (h0 : 0 ≤ q) : roundEven (q / 2 ^ quantumExponent q) ≤ 2 ^ 53 :=
  roundEven_le_of_le (by exact_mod_cast (div_quantum_lt h0).le)

theorem roundEven_div_quantum_normal (h0 : 0 < q) (h : quantumExponent q ≠ -1074) :
    2 ^ 52 ≤ roundEven (q / 2 ^ quantumExponent q) :=
  le_roundEven_of_le (by exact_mod_cast normal_le_div_quantum h0 h)

theorem roundDouble_nonneg (h0 : 0 ≤ q) : 0 ≤ roundDouble q := by
  have h : (0 : ℤ) ≤ roundEven (q / 2 ^ quantumExponent q) :=
    le_roundEven_of_le (by exact_mod_cast div_nonneg h0 (by positivity))
  unfold roundDouble
  have : (0 : ℚ) ≤ roundEven (q / 2 ^ quantumExponent q) := by exact_mod_cast h
  positivity

/-- Rounding to a double is monotone. Under one quantum it is nearest-even rounding of the
scaled values; across quanta the smaller value rounds to at most `2^53` of its quantum, which is
at most `2^52` of the larger quantum, where the larger value's rounding starts. -/
theorem roundDouble_mono (h0 : 0 ≤ q) (h : q ≤ q') : roundDouble q ≤ roundDouble q' := by
  rcases h0.lt_or_eq with hpos | rfl
  · have hle := quantumExponent_mono hpos h
    have hpos' : 0 < q' := hpos.trans_le h
    unfold roundDouble
    rcases hle.lt_or_eq with hlt | heq
    · have hnormal := roundEven_div_quantum_normal hpos' (by unfold quantumExponent at hlt ⊢; omega)
      have hsmall := roundEven_div_quantum_le hpos.le
      calc (roundEven (q / 2 ^ quantumExponent q) : ℚ) * 2 ^ quantumExponent q
          ≤ 2 ^ 53 * 2 ^ quantumExponent q := by gcongr; exact_mod_cast hsmall
        _ ≤ 2 ^ 52 * 2 ^ quantumExponent q' := full_le_normal hlt
        _ ≤ roundEven (q' / 2 ^ quantumExponent q') * 2 ^ quantumExponent q' := by
          gcongr; exact_mod_cast hnormal
    · rw [heq]
      gcongr
      exact_mod_cast roundEven_mono (div_le_div_of_nonneg_right h (by positivity))
  · simpa using roundDouble_nonneg (h0.trans h)

end Quantum

section Model

variable {m : Nat} {e : Int}

theorem binary64_minExponent : Format.binary64.minExponent = -1074 := by decide

theorem binary64_mantissaBits : (Format.binary64.mantissaBits : Int) = 53 := by decide

theorem log_mantissa_mul (hm : 0 < m) (e : Int) : Int.log 2 ((m : ℚ) * 2 ^ e) = m.log2 + e := by
  have hpos : (0 : ℚ) < m * 2 ^ e := by positivity
  have hlow : (2 : ℚ) ^ ((m.log2 : Int) + e) ≤ m * 2 ^ e := by
    rw [zpow_add₀ (by norm_num), zpow_natCast]
    gcongr
    exact_mod_cast Nat.log2_self_le hm.ne'
  have hhigh : (m : ℚ) * 2 ^ e < 2 ^ ((m.log2 : Int) + e + 1) := by
    rw [add_right_comm, zpow_add₀ (by norm_num), show (m.log2 : Int) + 1 = ((m.log2 + 1 : Nat) : Int) by
      push_cast; ring, zpow_natCast]
    gcongr
    exact_mod_cast Nat.lt_log2_self
  have h1 : (m.log2 : Int) + e ≤ Int.log 2 ((m : ℚ) * 2 ^ e) :=
    (Int.zpow_le_iff_le_log (by norm_num) hpos).1 (by exact_mod_cast hlow)
  have h2 : Int.log 2 ((m : ℚ) * 2 ^ e) < m.log2 + e + 1 :=
    (Int.lt_zpow_iff_log_lt (by norm_num) hpos).1 (by exact_mod_cast hhigh)
  omega

/-- The model's target exponent is the quantum exponent of the value. -/
theorem targetExponent_eq_quantumExponent (hm : 0 < m) (e : Int) :
    Format.binary64.targetExponent (totalExponent m e) = quantumExponent (m * 2 ^ e) := by
  simp only [Format.targetExponent, totalExponent, quantumExponent, log_mantissa_mul hm,
    binary64_minExponent, binary64_mantissaBits]
  omega

/-- The value `m · 2^e`, as an exact multiple of `2^t` for `e ≥ t`, in the model's shifted form. -/
theorem mul_zpow_div (x : ℚ) {t : Int} (h : e ≤ t) : x * 2 ^ e / 2 ^ t = x / 2 ^ (t - e).toNat := by
  rw [← zpow_natCast, Int.toNat_of_nonneg (by omega), zpow_sub₀ (by norm_num)]
  field_simp

/-- A mantissa below `2^53` at an exponent not below `-1074` is already in place. -/
theorem shift_small {r : Nat} {t : Int} (hr : r < 2 ^ 53) (ht : -1074 ≤ t) :
    shiftToTargetExponent .binary64 r t .exact = (ExtendedMantissa.ofMantissaAndAccuracy r .exact, t) := by
  have hlog : r.log2 ≤ 52 := by
    rcases Nat.eq_zero_or_pos r with rfl | hr0
    · simp
    · have := (Nat.log2_lt hr0.ne').2 hr
      omega
  have htarget : Format.binary64.targetExponent (totalExponent r t) ≤ t := by
    simp only [Format.targetExponent, totalExponent, binary64_minExponent, binary64_mantissaBits]
    omega
  have hzero : (Format.binary64.targetExponent (totalExponent r t) - t).toNat = 0 := by omega
  simp only [shiftToTargetExponent, shiftToExponent, hzero, Nat.cast_zero, add_zero]
  rfl

/-- A carry to `2^53` is shifted once more, exactly. -/
theorem shift_carry {t : Int} (ht : -1074 ≤ t) :
    shiftToTargetExponent .binary64 (2 ^ 53) t .exact = (⟨2 ^ 52, false, false⟩, t + 1) := by
  have htarget : Format.binary64.targetExponent (totalExponent (2 ^ 53) t) = t + 1 := by
    simp only [Format.targetExponent, totalExponent, binary64_minExponent, binary64_mantissaBits,
      Nat.log2_two_pow]
    omega
  simp only [shiftToTargetExponent, shiftToExponent, htarget, show (t + 1 - t).toNat = 1 by omega]
  rfl


theorem quantumExponent_le {q : ℚ} (h0 : 0 < q) (h : q < 2 ^ 1023) : quantumExponent q ≤ 970 := by
  have hlog : Int.log 2 q < 1023 := (Int.lt_zpow_iff_log_lt (by norm_num) h0).1 (by exact_mod_cast h)
  unfold quantumExponent
  omega

/-- Rounding a positive `m · 2^e` whose exponent is not past its target gives the stored double
whose value is `roundDouble (m · 2^e)`, provided the value stays below `2^1023`. -/
theorem roundWithAccuracy_spec (hm : 0 < m) (he : e ≤ Format.binary64.targetExponent (totalExponent m e))
    (hb : (m : ℚ) * 2 ^ e < 2 ^ 1023) :
    Stored (roundWithAccuracy .binary64 .positive m e .exact) ∧
      unpackedValue (roundWithAccuracy .binary64 .positive m e .exact) = roundDouble (m * 2 ^ e) := by
  have hq : (0 : ℚ) < m * 2 ^ e := by positivity
  have ht := targetExponent_eq_quantumExponent hm e
  set t := quantumExponent ((m : ℚ) * 2 ^ e)
  have hfirst : shiftToTargetExponent .binary64 m e .exact =
      (ExtendedMantissa.ofMantissaAndAccuracy m .exact >>> (t - e).toNat, t) := by
    simp only [shiftToTargetExponent, shiftToExponent, ht]
    congr 1
    omega
  -- the first rounded mantissa is the nearest-even rounding of the value in quanta
  have hround : ((ExtendedMantissa.ofMantissaAndAccuracy m .exact >>> (t - e).toNat).roundedMantissa : ℤ) =
      roundEven ((m : ℚ) * 2 ^ e / 2 ^ t) := by
    rw [mul_zpow_div _ (ht ▸ he)]
    exact (represents_shift m _).roundedMantissa
  have hlo : -1074 ≤ t := le_max_right _ _
  have hhi : t ≤ 970 := quantumExponent_le hq hb
  have h53 : roundEven ((m : ℚ) * 2 ^ e / 2 ^ t) ≤ 2 ^ 53 := roundEven_div_quantum_le hq.le
  unfold roundWithAccuracy
  rw [hfirst]
  dsimp only
  generalize (ExtendedMantissa.ofMantissaAndAccuracy m .exact >>> (t - e).toNat).roundedMantissa = r
    at hround ⊢
  have hr53 : r ≤ 2 ^ 53 := by omega
  have hvalue : roundDouble ((m : ℚ) * 2 ^ e) = r * 2 ^ t := by
    rw [roundDouble, ← hround]
    push_cast
    rfl
  rw [hvalue]
  rcases hr53.lt_or_eq with hlt | rfl
  · -- no carry: the rounded mantissa is the double's mantissa at the quantum exponent
    have hmant : (shiftToTargetExponent .binary64 r t .exact).1.mantissa = r := by
      rw [shift_small hlt hlo]
      rfl
    have hexp : (shiftToTargetExponent .binary64 r t .exact).2 = t := by
      rw [shift_small hlt hlo]
    rw [hmant, hexp]
    split_ifs with hz
    · simp [Stored, hz]
    · refine ⟨⟨hlt, hlo, by omega, ?_⟩, by simp⟩
      by_cases hsub : t = -1074
      · exact .inr hsub
      · have hnormal : 2 ^ 52 ≤ roundEven ((m : ℚ) * 2 ^ e / 2 ^ t) := roundEven_div_quantum_normal hq hsub
        omega
  · -- a carry to `2^53` is `2^52` one exponent up
    have hmant : (shiftToTargetExponent .binary64 (2 ^ 53) t .exact).1.mantissa = 2 ^ 52 := by
      rw [shift_carry hlo]
    have hexp : (shiftToTargetExponent .binary64 (2 ^ 53) t .exact).2 = t + 1 := by
      rw [shift_carry hlo]
    rw [hmant, hexp, dif_neg (by decide)]
    refine ⟨⟨by decide, by omega, by omega, .inl le_rfl⟩, ?_⟩
    rw [unpackedValue_positive, zpow_add₀ (by norm_num)]
    push_cast
    ring

theorem decreaseExponent_value (m : Nat) (e t : Int) :
    ((decreaseExponent m e t).1 : ℚ) * 2 ^ (decreaseExponent m e t).2 = m * 2 ^ e := by
  simp only [decreaseExponent, Nat.shiftLeft_eq]
  push_cast
  rw [← zpow_natCast, mul_assoc, ← zpow_add₀ (by norm_num)]
  congr 2
  omega

/-- Rounding a positive `m · 2^e` below `2^1023`, from any exponent, gives the stored double
whose value is `roundDouble (m · 2^e)`: the mantissa is first widened to the target exponent,
which keeps the value and the target. -/
theorem round_spec (hm : 0 < m) (hb : (m : ℚ) * 2 ^ e < 2 ^ 1023) :
    Stored (UnpackedFloat.round .binary64 .positive m e) ∧
      unpackedValue (UnpackedFloat.round .binary64 .positive m e) = roundDouble (m * 2 ^ e) := by
  have hval := decreaseExponent_value m e (Format.binary64.targetExponent (totalExponent m e))
  have hexp : (decreaseExponent m e (Format.binary64.targetExponent (totalExponent m e))).2 ≤
      Format.binary64.targetExponent (totalExponent m e) := by
    simp only [decreaseExponent]
    omega
  have hpos : 0 < (decreaseExponent m e (Format.binary64.targetExponent (totalExponent m e))).1 := by
    simp only [decreaseExponent, Nat.shiftLeft_eq]
    positivity
  unfold UnpackedFloat.round
  dsimp only
  generalize decreaseExponent m e (Format.binary64.targetExponent (totalExponent m e)) = d
    at hval hexp hpos ⊢
  obtain ⟨m', e'⟩ := d
  dsimp only at hval hexp hpos ⊢
  rw [← hval]
  refine roundWithAccuracy_spec hpos ?_ (hval ▸ hb)
  rw [targetExponent_eq_quantumExponent hpos, hval, ← targetExponent_eq_quantumExponent hm]
  exact hexp

/-- Rounding a signed mantissa that is not negative: zero gives positive zero, and a positive
one is `round_spec`. -/
theorem normalize_spec {n : Int} (hn : 0 ≤ n) (e : Int) (hb : (n : ℚ) * 2 ^ e < 2 ^ 1023) :
    Stored (normalize .binary64 n e .positive) ∧
      unpackedValue (normalize .binary64 n e .positive) = roundDouble (n * 2 ^ e) := by
  unfold UnpackedFloat.normalize
  rcases hn.lt_or_eq with hpos | rfl
  · have hcast : ((n.toNat : Nat) : ℚ) = n := by exact_mod_cast Int.toNat_of_nonneg hn
    rw [Int.compare_eq_gt.2 hpos, ← hcast]
    exact round_spec (by omega) (by rwa [hcast])
  · simp [Stored]

/-- The quantum exponent of a stored double is its own exponent. -/
theorem quantumExponent_stored (hm : 0 < m) (hlt : m < 2 ^ 53) (hlo : -1074 ≤ e)
    (hn : 2 ^ 52 ≤ m ∨ e = -1074) : quantumExponent (m * 2 ^ e) = e := by
  rw [← targetExponent_eq_quantumExponent hm]
  have hlog : m.log2 < 53 := (Nat.log2_lt hm.ne').2 hlt
  simp only [Format.targetExponent, totalExponent, binary64_minExponent, binary64_mantissaBits]
  rcases hn with h52 | rfl
  · have := (Nat.le_log2 hm.ne').2 h52
    omega
  · omega

/-- A stored double is its own rounding. -/
theorem roundDouble_stored {u : UnpackedFloat} (h : Stored u) :
    roundDouble (unpackedValue u) = unpackedValue u := by
  rcases u with ⟨_ | _⟩ | _ | s | ⟨_ | _, m, e, hm⟩ <;> simp only [Stored] at h
  · simp
  · obtain ⟨hlt, hlo, -, hn⟩ := h
    rw [unpackedValue_positive, roundDouble, quantumExponent_stored hm hlt hlo hn,
      mul_div_cancel_right₀ _ (by positivity)]
    exact_mod_cast congrArg (fun z : ℤ => (z : ℚ) * 2 ^ e) (roundEven_intCast m)

end Model

end TagAtlas
