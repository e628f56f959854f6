import TagAtlas.Proofs.FloatOrder
import TagAtlas.Query.Tuning
/-! Clamping into a range. A whole number clamped to `[lo, hi]` lies in it; so does a double
other than not-a-number clamped between two finite ends, and it is then finite; a double
already in the range is its own clamp. Finite here means neither not-a-number nor infinite,
and a double between two finite ones is finite. -/
namespace TagAtlas

open Float.Model

section Whole

theorem clampNat_mem {lo hi : Nat} (x : Nat) (h : lo ≤ hi) :
    lo ≤ clampNat x lo hi ∧ clampNat x lo hi ≤ hi := by
  unfold clampNat
  omega

theorem clampInt_mem {lo hi : Int} (x : Int) (h : lo ≤ hi) :
    lo ≤ clampInt x lo hi ∧ clampInt x lo hi ≤ hi := by
  unfold clampInt
  omega

/-- An override is clamped to its range, and a missing one leaves the derived value. -/
theorem Tuning.pick_mem {lo hi : Int} (value : Option Int) (derived : Nat) (h0 : 0 ≤ lo)
    (h : lo ≤ hi) (hd : lo ≤ derived ∧ derived ≤ hi) :
    lo ≤ Tuning.pick value derived lo hi ∧ Tuning.pick value derived lo hi ≤ hi := by
  cases value with
  | none => exact hd
  | some v =>
    have hv := clampInt_mem v h
    simp only [Tuning.pick]
    omega

end Whole

section Doubles

variable {x lo hi : Float}

theorem isFinite_eq (x : Float) : x.isFinite = !(x.isNaN || x.isInf) := by
  change x.toModel.unpack.isFinite = !(x.toModel.unpack.isNaN || x.toModel.unpack.isInf)
  cases x.toModel.unpack <;> rfl

theorem isNaN_eq_false_of_isFinite (h : x.isFinite = true) : x.isNaN = false := by
  rw [isFinite_eq] at h
  cases hn : x.isNaN
  · rfl
  · rw [hn, Bool.true_or] at h
    exact absurd h (by decide)

theorem unpacked_isFinite_of_le {a y b : UnpackedFloat} (ha : a.isFinite = true)
    (hb : b.isFinite = true) (hay : a.le y = true) (hyb : y.le b = true) : y.isFinite = true := by
  -- an infinity lies beyond every finite value, and not-a-number compares with nothing
  rcases y with ⟨_ | _⟩ | _ | _ | _
  · rcases a with ⟨_ | _⟩ | _ | _ | ⟨_ | _, _, _, _⟩ <;>
      simp_all [UnpackedFloat.le, UnpackedFloat.compare, UnpackedFloat.isFinite]
  · rcases b with ⟨_ | _⟩ | _ | _ | ⟨_ | _, _, _, _⟩ <;>
      simp_all [UnpackedFloat.le, UnpackedFloat.compare, UnpackedFloat.isFinite]
  · simp [UnpackedFloat.le, UnpackedFloat.compare] at hyb
  · rfl
  · rfl

/-- A double between two finite doubles is finite. -/
theorem isFinite_of_le_of_le {a b : Float} (ha : a.isFinite = true) (hb : b.isFinite = true)
    (hax : a ≤ x) (hxb : x ≤ b) : x.isFinite = true :=
  unpacked_isFinite_of_le ha hb (float_le_iff.1 hax) (float_le_iff.1 hxb)

theorem not_lt_of_le {a b : Float} (h : a ≤ b) : ¬b < a := fun hba =>
  float_lt_irrefl a (float_lt_of_le_of_lt h hba)

/-- A double other than not-a-number, clamped between two ends in order, lies between them. -/
theorem clampFloat_mem (hx : x.isNaN = false) (hlo : lo.isNaN = false) (hhi : hi.isNaN = false)
    (hle : lo ≤ hi) : lo ≤ clampFloat x lo hi ∧ clampFloat x lo hi ≤ hi := by
  unfold clampFloat
  by_cases hxlo : x < lo
  · simp only [hxlo, if_true, gt_iff_lt, not_lt_of_le hle, if_false]
    exact ⟨float_le_refl hlo, hle⟩
  · have hlox : lo ≤ x := float_le_of_not_lt hx hlo hxlo
    simp only [hxlo, if_false, gt_iff_lt]
    split
    · exact ⟨hle, float_le_refl hhi⟩
    · exact ⟨hlox, float_le_of_not_lt hhi hx ‹_›⟩

/-- The clamp of a double other than not-a-number between finite ends is finite. -/
theorem isFinite_clampFloat (hx : x.isNaN = false) (hlo : lo.isFinite = true)
    (hhi : hi.isFinite = true) (hle : lo ≤ hi) : (clampFloat x lo hi).isFinite = true :=
  have hmem := clampFloat_mem hx (isNaN_eq_false_of_isFinite hlo) (isNaN_eq_false_of_isFinite hhi) hle
  isFinite_of_le_of_le hlo hhi hmem.1 hmem.2

/-- A double already in the range is its own clamp. -/
theorem clampFloat_of_mem (hlo : lo ≤ x) (hhi : x ≤ hi) : clampFloat x lo hi = x := by
  unfold clampFloat
  simp [not_lt_of_le hlo, not_lt_of_le hhi]

end Doubles

end TagAtlas
