import TagAtlas.Proofs.FloatArithmetic
/-! The thresholds derived from a consolidation knob stay in their ranges and move one way with
it. The knob is first clamped into `[0, 1]` (a knob that is not finite counts as zero); each
threshold is then `a + b · c` or `a + b · (1 - c)`, rounded half up and clamped, or the edge bar
`max (0.35 - 0.30 · c) 0.05`, and an override replaces it clamped to a wider range. Read on
doubles as rounded rational arithmetic, every one of these steps is monotone. -/
namespace TagAtlas

open Float.Model

namespace Tuning

/-- The ranges the thresholds of every query keep. -/
structure InRange (t : Tuning) : Prop where
  consolidation_mem : 0.0 ≤ t.consolidation ∧ t.consolidation ≤ 1.0
  minSupport_mem : 2 ≤ t.minSupport ∧ t.minSupport ≤ 10000
  minPair_mem : 2 ≤ t.minPair ∧ t.minPair ≤ 10000
  edgeThreshold_mem : t.edgeThreshold.isFinite = true ∧ -1.0 ≤ t.edgeThreshold ∧ t.edgeThreshold ≤ 1.0
  k_mem : 1 ≤ t.k ∧ t.k ≤ 64
  maxSets_mem : 1 ≤ t.maxSets ∧ t.maxSets ≤ 200
  maxSetSize_mem : 1 ≤ t.maxSetSize ∧ t.maxSetSize ≤ 32
  maxSetsSingle_mem : 6 ≤ t.maxSetsSingle ∧ t.maxSetsSingle ≤ 120
  maxSeedCores_mem : 1 ≤ t.maxSeedCores ∧ t.maxSeedCores ≤ 60
  macroSize_mem : 3 ≤ t.macroSize ∧ t.macroSize ≤ 10
  maxSetsTotal_mem : 10 ≤ t.maxSetsTotal ∧ t.maxSetsTotal ≤ 400
  triadScan_mem : 1 ≤ t.triadScan ∧ t.triadScan ≤ 64
  not_both_forced : ¬(t.forcesSingletons = true ∧ t.forcesSingleComponent = true)

/-- From the thresholds `t₁` to `t₂` the consolidation has not fallen: the bars and counts that
fall with it have not risen, and the sizes that grow with it have not shrunk. -/
structure Coarsens (t₁ t₂ : Tuning) : Prop where
  minSupport_le : t₂.minSupport ≤ t₁.minSupport
  minPair_le : t₂.minPair ≤ t₁.minPair
  edgeThreshold_le : t₂.edgeThreshold ≤ t₁.edgeThreshold
  maxSets_le : t₂.maxSets ≤ t₁.maxSets
  maxSetsSingle_le : t₂.maxSetsSingle ≤ t₁.maxSetsSingle
  maxSetsTotal_le : t₂.maxSetsTotal ≤ t₁.maxSetsTotal
  k_le : t₁.k ≤ t₂.k
  maxSetSize_le : t₁.maxSetSize ≤ t₂.maxSetSize
  maxSeedCores_le : t₁.maxSeedCores ≤ t₂.maxSeedCores
  macroSize_le : t₁.macroSize ≤ t₂.macroSize
  triadScan_le : t₁.triadScan ≤ t₂.triadScan

/-- No consolidation is both at most the strict end and at least the merged end. -/
theorem not_both_forced (t : Tuning) : ¬(t.forcesSingletons = true ∧ t.forcesSingleComponent = true) := by
  rintro ⟨hs, hm⟩
  have hle : megaConsolidation ≤ strictConsolidation :=
    float_le_trans (of_decide_eq_true hm) (of_decide_eq_true hs)
  exact absurd hle (by decide)

/-- The clamped consolidation is a zero or a positive finite double at most one. -/
theorem consolidation_unit (x : Float) (o : Overrides) :
    FiniteNonneg (derive x o).consolidation ∧ (derive x o).consolidation ≤ 1.0 := by
  show FiniteNonneg (if x.isNaN || x.isInf then 0.0 else clampFloat x 0.0 1.0) ∧
    (if x.isNaN || x.isInf then 0.0 else clampFloat x 0.0 1.0) ≤ 1.0
  split
  · exact ⟨finiteNonneg_zero, by decide⟩
  · rename_i hx
    have hmem : 0.0 ≤ clampFloat x 0.0 1.0 ∧ clampFloat x 0.0 1.0 ≤ 1.0 :=
      clampFloat_mem (Bool.or_eq_false_iff.1 (Bool.eq_false_iff.2 hx)).1 rfl rfl (by decide)
    exact ⟨FiniteNonneg.of_le_of_le finiteNonneg_zero rfl hmem.1 hmem.2, hmem.2⟩

section Knobs

variable {a b c₁ c₂ : Float}

theorem clampNat_mono {x y : Nat} (lo hi : Nat) (h : x ≤ y) : clampNat x lo hi ≤ clampNat y lo hi := by
  unfold clampNat
  omega

/-- A threshold `a + b · c`, rounded half up, rises with the consolidation `c ∈ [0, 1]`. -/
theorem roundNat_rising (ha : SmallConst a) (hb : SmallConst b) (hc₁ : FiniteNonneg c₁)
    (hc₂ : FiniteNonneg c₂) (h1 : c₂ ≤ 1.0) (h : c₁ ≤ c₂) :
    roundNat (a + b * c₁) ≤ roundNat (a + b * c₂) :=
  roundNat_mono (affine_spec ha hb hc₁ (float_le_trans h h1)).1 (affine_spec ha hb hc₂ h1).1
    (affine_mono ha hb hc₁ hc₂ h1 h)

/-- A threshold `a + b · (1 - c)`, rounded half up, falls as the consolidation `c ∈ [0, 1]` rises. -/
theorem roundNat_falling (ha : SmallConst a) (hb : SmallConst b) (hc₁ : FiniteNonneg c₁)
    (hc₂ : FiniteNonneg c₂) (h1 : c₂ ≤ 1.0) (h : c₁ ≤ c₂) :
    roundNat (a + b * (1.0 - c₂)) ≤ roundNat (a + b * (1.0 - c₁)) := by
  obtain ⟨hl₁, -, hl₁1⟩ := complement_spec hc₁ (float_le_trans h h1)
  obtain ⟨hl₂, -, -⟩ := complement_spec hc₂ h1
  exact roundNat_rising ha hb hl₂ hl₁ hl₁1 (complement_anti hc₁ hc₂ h1 h)

/-- Raising a double to a floor `f`, the edge bar's `max` on doubles, is monotone. -/
theorem raise_mono {f x y : Float} (hf : f.isNaN = false) (hy : y.isNaN = false) (h : x ≤ y) :
    (if x < f then f else x) ≤ (if y < f then f else y) := by
  by_cases hxf : x < f <;> by_cases hyf : y < f <;> simp only [hxf, hyf, if_true, if_false]
  · exact float_le_refl hf
  · exact float_le_of_not_lt hy hf hyf
  · exact absurd (float_lt_of_le_of_lt h hyf) hxf
  · exact h

/-- The edge bar `max (0.35 - 0.30 · c) 0.05` of a consolidation `c ∈ [0, 1]` is finite and in
`[-1, 1]`. -/
theorem edgeBar_mem {c : Float} (hc : FiniteNonneg c) (hc1 : c ≤ 1.0) :
    (if 0.35 - 0.30 * c < 0.05 then 0.05 else 0.35 - 0.30 * c).isFinite = true ∧
      -1.0 ≤ (if 0.35 - 0.30 * c < 0.05 then 0.05 else 0.35 - 0.30 * c) ∧
      (if 0.35 - 0.30 * c < 0.05 then 0.05 else 0.35 - 0.30 * c) ≤ 1.0 := by
  obtain ⟨he, -, he'⟩ := descent_spec (a := 0.35) (b := 0.30) (by decide) (by decide) (by decide) hc hc1
  split
  · decide
  · exact ⟨he.finite, float_le_trans (by decide) he.zero_le, float_le_trans he' (by decide)⟩

/-- A clamped threshold, or its override clamped to a wider range, lies in the wider range. -/
theorem pick_clampNat_mem (v : Option Int) (x lo hi lo' hi' : Nat) (hlo : lo' ≤ lo) (hhi : hi ≤ hi')
    (h : lo ≤ hi) :
    lo' ≤ pick v (clampNat x lo hi) lo' hi' ∧ pick v (clampNat x lo hi) lo' hi' ≤ hi' := by
  have hd := clampNat_mem x h
  have hp : (lo' : Int) ≤ pick v (clampNat x lo hi) lo' hi' ∧ (pick v (clampNat x lo hi) lo' hi' : Int) ≤ hi' :=
    pick_mem v (clampNat x lo hi) (Int.natCast_nonneg lo') (by omega) (by omega)
  omega

/-- A support bar held at least `2`, or its override, lies in `[2, 10000]`. -/
theorem pick_bar_mem (v : Option Int) {x : Nat} (hx : x ≤ 10000) :
    2 ≤ pick v (max x 2) 2 10000 ∧ pick v (max x 2) 2 10000 ≤ 10000 := by
  have hp : (2 : Int) ≤ pick v (max x 2) 2 10000 ∧ (pick v (max x 2) 2 10000 : Int) ≤ 10000 :=
    pick_mem v (max x 2) (by decide) (by decide) (by omega)
  omega

end Knobs

/-- Every derived tuning keeps its ranges, whatever the consolidation (not-a-number and the
infinities included) and whatever the overrides. The falling bars are largest at consolidation
zero, where they are computed. -/
theorem derive_inRange (x : Float) (o : Overrides) : (derive x o).InRange := by
  obtain ⟨hc, hc1⟩ := consolidation_unit x o
  have hsupport : roundNat (3.0 + 12.0 * (1.0 - (derive x o).consolidation)) ≤ 10000 :=
    (roundNat_falling (a := 3.0) (b := 12.0) (by decide) (by decide) finiteNonneg_zero hc hc1
      hc.zero_le).trans (by decide)
  have hpair : roundNat (2.0 + 8.0 * (1.0 - (derive x o).consolidation)) ≤ 10000 :=
    (roundNat_falling (a := 2.0) (b := 8.0) (by decide) (by decide) finiteNonneg_zero hc hc1
      hc.zero_le).trans (by decide)
  refine ⟨⟨hc.zero_le, hc1⟩, pick_bar_mem _ hsupport, pick_bar_mem _ hpair, ?_,
    pick_clampNat_mem _ _ 3 24 1 64 (by decide) (by decide) (by decide),
    pick_clampNat_mem _ _ 6 80 1 200 (by decide) (by decide) (by decide),
    pick_clampNat_mem _ _ 4 14 1 32 (by decide) (by decide) (by decide),
    clampNat_mem _ (by decide),
    pick_clampNat_mem _ _ 6 30 1 60 (by decide) (by decide) (by decide),
    pick_clampNat_mem _ _ 3 6 3 10 (by decide) (by decide) (by decide),
    pick_clampNat_mem _ _ 80 220 10 400 (by decide) (by decide) (by decide),
    pick_clampNat_mem _ _ 4 12 1 64 (by decide) (by decide) (by decide),
    not_both_forced _⟩
  have hbar := edgeBar_mem hc hc1
  rcases o with ⟨_, _, _ | v, _, _, _, _, _, _, _⟩
  · exact hbar
  · change (if v.isNaN || v.isInf then _ else clampFloat v (-1.0) 1.0).isFinite = true ∧
      -1.0 ≤ (if v.isNaN || v.isInf then _ else clampFloat v (-1.0) 1.0) ∧
      (if v.isNaN || v.isInf then _ else clampFloat v (-1.0) 1.0) ≤ 1.0
    split
    · exact hbar
    · rename_i hv
      have hnan := (Bool.or_eq_false_iff.1 (Bool.eq_false_iff.2 hv)).1
      have hmem : -1.0 ≤ clampFloat v (-1.0) 1.0 ∧ clampFloat v (-1.0) 1.0 ≤ 1.0 :=
        clampFloat_mem hnan rfl rfl (by decide)
      exact ⟨isFinite_clampFloat hnan rfl rfl (by decide), hmem⟩

/-- Without overrides, a consolidation that is not lower coarsens every threshold. -/
theorem derive_coarsens {x₁ x₂ : Float}
    (h : (derive x₁ {}).consolidation ≤ (derive x₂ {}).consolidation) :
    (derive x₁ {}).Coarsens (derive x₂ {}) := by
  obtain ⟨hc₁, -⟩ := consolidation_unit x₁ {}
  obtain ⟨hc₂, h1⟩ := consolidation_unit x₂ {}
  have hedge := descent_anti (a := 0.35) (b := 0.30) (by decide) (by decide) (by decide) hc₁ hc₂ h1 h
  have hbar₁ := descent_spec (a := 0.35) (b := 0.30) (by decide) (by decide) (by decide) hc₁
    (float_le_trans h h1)
  exact
    { minSupport_le := max_le_max_right 2
        (roundNat_falling (a := 3.0) (b := 12.0) (by decide) (by decide) hc₁ hc₂ h1 h)
      minPair_le := max_le_max_right 2
        (roundNat_falling (a := 2.0) (b := 8.0) (by decide) (by decide) hc₁ hc₂ h1 h)
      edgeThreshold_le := raise_mono rfl hbar₁.1.nonneg.isNaN_eq_false hedge
      maxSets_le := clampNat_mono 6 80
        (roundNat_falling (a := 12.0) (b := 48.0) (by decide) (by decide) hc₁ hc₂ h1 h)
      maxSetsSingle_le := clampNat_mono 6 120
        (roundNat_falling (a := 18.0) (b := 90.0) (by decide) (by decide) hc₁ hc₂ h1 h)
      maxSetsTotal_le := clampNat_mono 80 220
        (roundNat_falling (a := 100.0) (b := 120.0) (by decide) (by decide) hc₁ hc₂ h1 h)
      k_le := clampNat_mono 3 24
        (roundNat_rising (a := 4.0) (b := 14.0) (by decide) (by decide) hc₁ hc₂ h1 h)
      maxSetSize_le := clampNat_mono 4 14
        (roundNat_rising (a := 6.0) (b := 6.0) (by decide) (by decide) hc₁ hc₂ h1 h)
      maxSeedCores_le := clampNat_mono 6 30
        (roundNat_rising (a := 10.0) (b := 12.0) (by decide) (by decide) hc₁ hc₂ h1 h)
      macroSize_le := clampNat_mono 3 6
        (roundNat_rising (a := 4.0) (b := 2.0) (by decide) (by decide) hc₁ hc₂ h1 h)
      triadScan_le := clampNat_mono 4 12
        (roundNat_rising (a := 6.0) (b := 6.0) (by decide) (by decide) hc₁ hc₂ h1 h) }

/-- The thresholds of every query keep their ranges, for every consolidation and every set of
overrides; and without overrides each threshold moves one way as the clamped consolidation
rises: the support and pair bars, the edge bar and the sector counts fall, the neighbour count
and the set, seed, core and scan sizes grow. -/
theorem derive_ranges_monotone :
    (∀ (x : Float) (o : Overrides), (derive x o).InRange) ∧
      ∀ x₁ x₂ : Float, (derive x₁ {}).consolidation ≤ (derive x₂ {}).consolidation →
        (derive x₁ {}).Coarsens (derive x₂ {}) :=
  ⟨derive_inRange, fun _ _ => derive_coarsens⟩

/-- From the most fragmented end to the most merged one. -/
theorem derive_ends_coarsen :
    (derive 0.0 {}).consolidation ≤ (derive 1.0 {}).consolidation ∧
      (derive 0.0 {}).Coarsens (derive 1.0 {}) :=
  have h : (derive 0.0 {}).consolidation ≤ (derive 1.0 {}).consolidation := by decide
  ⟨h, derive_ranges_monotone.2 0.0 1.0 h⟩

end Tuning

end TagAtlas
