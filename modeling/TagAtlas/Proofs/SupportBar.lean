import TagAtlas.Proofs.Selection
import TagAtlas.Plan.Sectors
/-! Raising the least support of candidate tags. A higher bar lets fewer scanned tags through,
so while at least `min 25 maxTags` of them still reach it, selection keeps no more tags than
at a lower bar. Once too few reach it, selection falls back to the top of the scan, which holds
at least as many tags as any bar keeps: raising the bar past that point can add candidates.
A plan counts the candidates of the least support its thresholds derive, and an override
raises that bar monotonically. Main statement: `raising_support_bar`. -/
namespace TagAtlas

/-- The scanned ranking entries that reach a least support. -/
def passing (ranking : List (Int × Nat)) (maxTags minSupport : Nat) : List (Int × Nat) :=
  (ranking.take (3 * maxTags)).filter fun e => minSupport ≤ e.2

/-- How the number of candidates moves from `n₁` to `n₂` when the least support rises from `m₁`
to `m₂`: it does not grow while enough scanned tags reach the higher bar, it stays when too few
reach the lower bar already, and it does not shrink once too few reach the higher bar. -/
structure BarRaise (ranking : List (Int × Nat)) (maxTags m₁ m₂ n₁ n₂ : Nat) : Prop where
  le_of_enough : min minCandidates maxTags ≤ (passing ranking maxTags m₂).length → n₂ ≤ n₁
  eq_of_fallback : (passing ranking maxTags m₁).length < min minCandidates maxTags → n₂ = n₁
  ge_of_fallback : (passing ranking maxTags m₂).length < min minCandidates maxTags → n₁ ≤ n₂

theorem BarRaise.self (ranking : List (Int × Nat)) (maxTags m₁ m₂ n : Nat) :
    BarRaise ranking maxTags m₁ m₂ n n :=
  ⟨fun _ => le_rfl, fun _ => rfl, fun _ => le_rfl⟩

section Cut

variable {ranking : List (Int × Nat)} {maxTags : Nat}

theorem rankingCut_eq (minSupport : Nat) :
    rankingCut ranking maxTags minSupport =
      if min 25 maxTags ≤ (passing ranking maxTags minSupport).length then
        (passing ranking maxTags minSupport).take maxTags
      else (ranking.take (3 * maxTags)).take maxTags := rfl

/-- A higher bar lets fewer scanned tags through. -/
theorem length_passing_antitone {m₁ m₂ : Nat} (hm : m₁ ≤ m₂) :
    (passing ranking maxTags m₂).length ≤ (passing ranking maxTags m₁).length := by
  simp only [passing, ← List.countP_eq_length_filter]
  refine List.countP_mono_left fun e _ h => ?_
  simp only [decide_eq_true_eq] at h ⊢
  omega

/-- A cut keeps the passing tags when enough pass, else the top of the scan; at most `maxTags`
either way. -/
theorem length_rankingCut (minSupport : Nat) :
    (rankingCut ranking maxTags minSupport).length =
      if min 25 maxTags ≤ (passing ranking maxTags minSupport).length then
        min maxTags (passing ranking maxTags minSupport).length
      else min maxTags (ranking.take (3 * maxTags)).length := by
  rw [rankingCut_eq]
  split <;> rw [List.length_take]

theorem barRaise_rankingCut {m₁ m₂ : Nat} (hm : m₁ ≤ m₂) :
    BarRaise ranking maxTags m₁ m₂ (rankingCut ranking maxTags m₁).length
      (rankingCut ranking maxTags m₂).length := by
  have hpass := @length_passing_antitone ranking maxTags _ _ hm
  have hscan : (passing ranking maxTags m₁).length ≤ (ranking.take (3 * maxTags)).length :=
    List.length_filter_le _ _
  rw [length_rankingCut, length_rankingCut]
  refine ⟨fun h => ?_, fun h => ?_, fun h => ?_⟩ <;> simp only [minCandidates] at h <;>
    split_ifs <;> omega

end Cut

/-- The number of candidates selected: none for an empty snapshot or budget, else the cut. -/
theorem size_selectCandidates (s : Snapshot) (maxTags minSupport : Nat) :
    (selectCandidates s maxTags minSupport).size =
      if s.isEmpty || maxTags == 0 then 0
      else (rankingCut s.supportRanking maxTags minSupport).length := by
  unfold selectCandidates
  split
  · rfl
  · simp only [CandidateSet.size, List.size_toArray, List.length_map, rankingCut, minCandidates,
      ge_iff_le]
    split_ifs with hfew henough henough
    · omega
    · rw [List.take_take, Nat.min_self]
    · rfl
    · omega

/-- A snapshot with an item and a ranked tag selects a candidate when there is room for one. -/
theorem size_selectCandidates_pos {s : Snapshot} {maxTags : Nat} (minSupport : Nat)
    (hempty : s.isEmpty = false) (hr : s.supportRanking ≠ []) (hm : 0 < maxTags) :
    0 < (selectCandidates s maxTags minSupport).size := by
  have hmax : (maxTags == 0) = false := by simpa using hm.ne'
  simp only [size_selectCandidates, hempty, hmax, Bool.false_or, Bool.false_eq_true, if_false]
  exact List.length_pos_iff.2 (rankingCut_ne_nil hr hm)

theorem barRaise_selectCandidates (s : Snapshot) (maxTags : Nat) {m₁ m₂ : Nat} (hm : m₁ ≤ m₂) :
    BarRaise s.supportRanking maxTags m₁ m₂ (selectCandidates s maxTags m₁).size
      (selectCandidates s maxTags m₂).size := by
  rw [size_selectCandidates, size_selectCandidates]
  split
  · exact BarRaise.self _ _ _ _ 0
  · exact barRaise_rankingCut hm

/-- A plan counts the candidates selected at its derived least support, or none when it plans
nothing. -/
theorem stats_candidates_planSectors (s : Snapshot) (p : Params) :
    (planSectors s p).stats.candidates =
      if s.isEmpty || p.view == .custom then 0
      else (selectCandidates s p.maxTags (Tuning.derive p.consolidation p.overrides).minSupport).size := by
  unfold planSectors
  split
  · rfl
  · -- every later branch records the candidates it selected
    dsimp only
    repeat' split
    all_goals rfl

/-- An override of the least support is clamped to `[2, 10000]`, so a higher override gives a
bar at least as high. -/
theorem minSupport_derive_mono (c : Float) (o : Overrides) {v₁ v₂ : Int} (hv : v₁ ≤ v₂) :
    (Tuning.derive c { o with minSupport := some v₁ }).minSupport ≤
      (Tuning.derive c { o with minSupport := some v₂ }).minSupport := by
  simp only [Tuning.derive, Tuning.pick, clampInt]
  exact Int.toNat_le_toNat (max_le_max le_rfl (min_le_min hv le_rfl))

/-- Raising the least support from `m₁` to `m₂` leaves at most as many candidates as long as at
least `min 25 maxTags` of the scanned tags reach `m₂`, and changes nothing when fewer reach
`m₁`; when fewer reach `m₂` selection falls back to the top of the scan and keeps at least as
many. A plan's candidate count moves the same way when only its override of the least support
is raised. -/
theorem raising_support_bar (s : Snapshot) (maxTags : Nat) {m₁ m₂ : Nat} (hm : m₁ ≤ m₂)
    (p : Params) {v₁ v₂ : Int} (hv : v₁ ≤ v₂) :
    BarRaise s.supportRanking maxTags m₁ m₂ (selectCandidates s maxTags m₁).size
        (selectCandidates s maxTags m₂).size ∧
      BarRaise s.supportRanking p.maxTags
        (Tuning.derive p.consolidation { p.overrides with minSupport := some v₁ }).minSupport
        (Tuning.derive p.consolidation { p.overrides with minSupport := some v₂ }).minSupport
        (planSectors s { p with overrides := { p.overrides with minSupport := some v₁ } }).stats.candidates
        (planSectors s { p with overrides := { p.overrides with minSupport := some v₂ } }).stats.candidates := by
  refine ⟨barRaise_selectCandidates s maxTags hm, ?_⟩
  rw [stats_candidates_planSectors, stats_candidates_planSectors]
  split
  · exact BarRaise.self _ _ _ _ 0
  · exact barRaise_selectCandidates s p.maxTags (minSupport_derive_mono _ _ hv)

theorem raising_support_bar_from_two :
    2 ≤ 3 ∧ (2 : Int) ≤ 3 ∧
      BarRaise (Snapshot.ofPairs [(1, 10), (2, 10), (2, 20)]).supportRanking 150 2 3
          (selectCandidates (Snapshot.ofPairs [(1, 10), (2, 10), (2, 20)]) 150 2).size
          (selectCandidates (Snapshot.ofPairs [(1, 10), (2, 10), (2, 20)]) 150 3).size ∧
        BarRaise (Snapshot.ofPairs [(1, 10), (2, 10), (2, 20)]).supportRanking 150
          (Tuning.derive 0.5 { minSupport := some 2 }).minSupport
          (Tuning.derive 0.5 { minSupport := some 3 }).minSupport
          (planSectors (Snapshot.ofPairs [(1, 10), (2, 10), (2, 20)])
            { consolidation := 0.5, overrides := { minSupport := some 2 } }).stats.candidates
          (planSectors (Snapshot.ofPairs [(1, 10), (2, 10), (2, 20)])
            { consolidation := 0.5, overrides := { minSupport := some 3 } }).stats.candidates :=
  ⟨by decide, by decide, raising_support_bar (Snapshot.ofPairs [(1, 10), (2, 10), (2, 20)]) 150
    (by decide) { consolidation := 0.5 } (by decide)⟩

/-- A staircase of 25 tags on two items each and one tag on a single item, with room for 26
tags: at a bar of two the 25 tags pass and are kept; at three none passes, and selection falls
back to all 26 tags of the scan. -/
theorem raised_bar_adds_candidate :
    let pairs : List (Int × Int) := ((List.range 25).flatMap fun t =>
      [(Int.ofNat t + 1, Int.ofNat t + 1), (Int.ofNat t + 2, Int.ofNat t + 1)]) ++ [(26, 26)]
    (selectCandidates (Snapshot.ofPairs pairs) 26 2).size = 25 ∧
      (selectCandidates (Snapshot.ofPairs pairs) 26 3).size = 26 := by
  intro pairs
  -- the walk over the tag table meets the staircase's tags in hash order; ranking sorts them
  have hrank : (Snapshot.ofPairs pairs).supportRanking =
      ((List.range 25).map fun t => (Int.ofNat t + 1, 2)) ++ [(26, 1)] :=
    Snapshot.supportRanking_eq_of_perm (by decide +kernel) (by decide)
  have hempty : (Snapshot.ofPairs pairs).isEmpty = false := by decide +kernel
  simp only [selectCandidates, hrank, hempty]
  decide

end TagAtlas
