import TagAtlas.Proofs.Tagsets
import TagAtlas.Proofs.Components
import TagAtlas.Proofs.SupportBar
/-! The tagsets view at either end of the consolidation. At the merged end the partition is one
component of every candidate, so the plan is a single sector holding every item that carries a
candidate tag and showing the first candidate tags; at the strict end every candidate is a
component of its own, so each sector shows one tag and holds items carrying it. Neither end
scores an edge. Main statement: `consolidation_ends_plan`. -/
namespace TagAtlas

namespace Tuning

/-- An override clamped below by a positive bound, or else a positive derived value, is
positive. -/
theorem pick_pos {v : Option Int} {derived : Nat} {lo hi : Int} (hlo : 0 < lo)
    (hd : 0 < derived) : 0 < pick v derived lo hi := by
  cases v with
  | none => exact hd
  | some v =>
    simp only [pick, clampInt]
    omega

theorem maxSets_pos (c : Float) (o : Overrides) : 0 < (derive c o).maxSets := by
  unfold derive
  exact pick_pos (by decide) (by unfold clampNat; omega)

theorem maxSetSize_pos (c : Float) (o : Overrides) : 0 < (derive c o).maxSetSize := by
  unfold derive
  exact pick_pos (by decide) (by unfold clampNat; omega)

end Tuning

/-- Every selected candidate is carried by some item. -/
theorem exists_carrier_of_mem_selectCandidates {rows : List Application} {maxTags minSupport : Nat}
    {x : Candidate} (hx : x ∈ (selectCandidates (Snapshot.ofApplications rows) maxTags minSupport).tags) :
    ∃ i, x.tag ∈ (Snapshot.ofApplications rows).tagsOf i := by
  have hs := Snapshot.valid_ofApplications rows
  have hmem := Array.mem_toList_iff.2 hx
  rw [selectCandidates_tags hs] at hmem
  obtain ⟨e, he, rfl⟩ := List.mem_map.1 hmem
  exact hs.mem_supportRanking_keys.1 (List.mem_map_of_mem (rankingCut_sublist.subset he))

theorem map_tagAt_range (c : CandidateSet) :
    (List.range c.size).map c.tagAt = c.tags.toList.map Candidate.tag := by
  refine List.ext_getElem (by simp [CandidateSet.size]) fun j h₁ _ => ?_
  have hj : j < c.size := by simpa using h₁
  simp only [List.getElem_map, List.getElem_range, Array.getElem_toList]
  exact CandidateSet.tagAt_of_lt hj

namespace Stages

variable {st : Stages}

theorem length_tagsetSectors_le : st.tagsetSectors.length ≤ st.kept.length := by
  rw [tagsetSectors, List.length_map]
  calc _ ≤ (st.placed.filter fun e => !e.2.isEmpty).length := List.length_take_le' _ _
    _ ≤ st.placed.length := List.length_filter_le _ _
    _ = st.kept.length := by rw [placed, List.length_zip, length_assignItems, Nat.min_self]

/-- When the kept components fit in `maxSets`, so do those that receive items. -/
theorem receiving_le_maxSets (h : st.kept.length ≤ st.tuning.maxSets) :
    (assignItems st.memberships st.kept st.candidates).countP (fun items => items ≠ []) ≤
      st.tuning.maxSets :=
  List.countP_le_length.trans ((length_assignItems _ _ _).le.trans h)

theorem kept_of_forcesSingleComponent (h : st.tuning.forcesSingleComponent = true)
    (hsize : st.candidates.size ≠ 0) (hsets : 0 < st.tuning.maxSets) :
    st.kept = [⟨List.range st.candidates.size,
      ((List.range st.candidates.size).map st.candidates.supportAt).sum⟩] := by
  rw [kept, partition_of_forcesSingleComponent h, if_neg hsize]
  exact List.take_of_length_le (by simp only [List.length_singleton]; omega)

theorem kept_of_forcesSingletons (h : st.tuning.forcesSingletons = true) :
    st.kept = (List.range (min (3 * st.tuning.maxSets) st.candidates.size)).map
      fun i => ⟨[i], st.candidates.supportAt i⟩ := by
  rw [kept, partition_of_forcesSingletons h, ← List.map_take, List.take_range]

end Stages

/-- At either end of the consolidation the tagsets view scores no edge and counts the
components of the partition, whatever graph it is read over. -/
theorem stats_planSectors_of_forces {s : Snapshot} {p : Params} (hview : p.view = .tagsets)
    (hempty : s.isEmpty = false) (hsize : (Stages.compute s p).candidates.size ≠ 0)
    (hforce : ((Stages.compute s p).tuning.forcesSingletons ||
      (Stages.compute s p).tuning.forcesSingleComponent) = true) (g : NeighborGraph) :
    (planSectors s p).stats.edges = 0 ∧ (planSectors s p).stats.components =
      (partition (Stages.compute s p).candidates g (Stages.compute s p).tuning).length := by
  have hcustom : (ViewMode.tagsets == .custom) = false := rfl
  have hsingle : (ViewMode.tagsets == .single) = false := rfl
  have hoverlap : (ViewMode.tagsets == .overlap) = false := rfl
  have htagsets : (ViewMode.tagsets == .tagsets) = true := rfl
  dsimp only [Stages.compute] at hsize hforce ⊢
  unfold planSectors
  simp only [hview, hempty, hcustom, hsingle, hoverlap, htagsets, hsize, hforce, Bool.or_false,
    Bool.true_and, Bool.false_eq_true, if_false, if_true]
  exact ⟨rfl, by rw [partition_eq_of_forces hforce _ _ g]⟩

/-- The tagsets plan at the merged end: one sector, holding in ascending order exactly the items
that carry some candidate tag and showing the first `maxSetSize` candidate tags; no edge is
scored and there is one component. -/
structure MergedPlan (s : Snapshot) (cands : CandidateSet) (maxSetSize : Nat) (plan : SectorPlan) :
    Prop where
  one_sector : ∃ sec, plan.sectors = [sec] ∧ sec.items.Pairwise (· < ·) ∧
    (∀ i, i ∈ sec.items ↔ ∃ x ∈ cands.tags, x.tag ∈ s.tagsOf i) ∧
    sec.tags = (cands.tags.toList.take maxSetSize).map Candidate.tag
  edges : plan.stats.edges = 0
  components : plan.stats.components = 1

/-- The tagsets plan at the strict end: each sector shows the one tag of a candidate among the
first `3 · maxSets` and holds only items carrying it, no two sectors show the same tag, no edge
is scored and each candidate is a component. -/
structure SingletonPlan (s : Snapshot) (cands : CandidateSet) (maxSets : Nat) (plan : SectorPlan) :
    Prop where
  one_tag : ∀ sec ∈ plan.sectors, ∃ j < 3 * maxSets, ∃ x, cands.tags[j]? = some x ∧
    sec.tags = [x.tag] ∧ ∀ i ∈ sec.items, x.tag ∈ s.tagsOf i
  tags_disjoint : plan.sectors.Pairwise fun a b => a.tags.Disjoint b.tags
  edges : plan.stats.edges = 0
  components : plan.stats.components = cands.size

section Ends

variable {rows : List Application} {p : Params}

/-- The snapshot of some rows with a candidate is not empty. -/
theorem isEmpty_eq_false_of_candidates
    (hcands : 0 < (Stages.compute (Snapshot.ofApplications rows) p).candidates.size) :
    (Snapshot.ofApplications rows).isEmpty = false := by
  have hsize := size_selectCandidates (Snapshot.ofApplications rows) p.maxTags
    (Tuning.derive p.consolidation p.overrides).minSupport
  change (selectCandidates _ _ _).size = _ at hsize
  cases h : (Snapshot.ofApplications rows).isEmpty
  · rfl
  · simp only [h, Bool.true_or, if_true] at hsize
    exact absurd hsize (Nat.pos_iff_ne_zero.1 hcands)

/-- The tagsets plan of the stages computed for some rows. -/
theorem tagsetsPlan_compute (rows : List Application) (p : Params) :
    TagsetsPlan (Snapshot.ofApplications rows) (Stages.compute (Snapshot.ofApplications rows) p)
      (Stages.compute (Snapshot.ofApplications rows) p).tagsetSectors := by
  have hs := Snapshot.valid_ofApplications rows
  have hc : (Stages.compute (Snapshot.ofApplications rows) p).candidates.Distinct :=
    distinct_selectCandidates hs _ _
  exact Stages.tagsetsPlan hs rfl hc

/-- At the merged end the stages plan one sector, and every item carrying a candidate tag is in
it: the merged component receives every such item, and the first candidate has a carrier. -/
theorem merged_tagsetSectors
    (hcands : 0 < (Stages.compute (Snapshot.ofApplications rows) p).candidates.size)
    (hmerge : (Stages.compute (Snapshot.ofApplications rows) p).tuning.forcesSingleComponent = true) :
    ∃ sec, (Stages.compute (Snapshot.ofApplications rows) p).tagsetSectors = [sec] ∧
      ∀ i, ∀ x ∈ (Stages.compute (Snapshot.ofApplications rows) p).candidates.tags,
        x.tag ∈ (Snapshot.ofApplications rows).tagsOf i → i ∈ sec.items := by
  set st := Stages.compute (Snapshot.ofApplications rows) p
  have hplan := tagsetsPlan_compute rows p
  have hkept := Stages.kept_of_forcesSingleComponent hmerge hcands.ne'
    (Tuning.maxSets_pos p.consolidation p.overrides)
  have hcount : ∀ i, ∀ x ∈ st.candidates.tags, x.tag ∈ (Snapshot.ofApplications rows).tagsOf i →
      st.tagsetSectors.countP (fun sec => i ∈ sec.items) = 1 := by
    intro i x hx hi
    obtain ⟨j, hj, rfl⟩ := Array.getElem_of_mem hx
    have hfit : st.kept.length ≤ st.tuning.maxSets := by
      rw [hkept, List.length_singleton]
      exact Tuning.maxSets_pos p.consolidation p.overrides
    refine hplan.complete (Stages.receiving_le_maxSets hfit) _ (by rw [hkept]; exact List.mem_singleton_self _)
      j (List.mem_range.2 hj) i ?_
    rwa [CandidateSet.tagAt_of_lt hj]
  -- the first candidate is carried by some item, so the one sector is there
  obtain ⟨sec, hsec⟩ : ∃ sec, st.tagsetSectors = [sec] := by
    have hfirst : st.candidates.tags[0] ∈ st.candidates.tags := Array.getElem_mem hcands
    obtain ⟨i, hi⟩ := exists_carrier_of_mem_selectCandidates hfirst
    have hone := hcount i _ hfirst hi
    have hlen := hkept ▸ @Stages.length_tagsetSectors_le st
    match hsecs : st.tagsetSectors, hone, hlen with
    | [sec], _, _ => exact ⟨sec, rfl⟩
    | [], hone, _ => simp at hone
    | _ :: _ :: _, _, hlen => simp at hlen
  refine ⟨sec, hsec, fun i x hx hxi => ?_⟩
  have hone := hcount i x hx hxi
  rw [hsec, List.countP_singleton] at hone
  simpa using hone

theorem mergedPlan (hview : p.view = .tagsets)
    (hcands : 0 < (Stages.compute (Snapshot.ofApplications rows) p).candidates.size)
    (hmerge : (Stages.compute (Snapshot.ofApplications rows) p).tuning.forcesSingleComponent = true) :
    MergedPlan (Snapshot.ofApplications rows) (Stages.compute (Snapshot.ofApplications rows) p).candidates
      (Stages.compute (Snapshot.ofApplications rows) p).tuning.maxSetSize
      (planSectors (Snapshot.ofApplications rows) p) := by
  set s := Snapshot.ofApplications rows
  set st := Stages.compute s p
  have hplan := tagsetsPlan_compute rows p
  have hstats := stats_planSectors_of_forces hview (isEmpty_eq_false_of_candidates hcands)
    hcands.ne' (by rw [hmerge, Bool.or_true]) st.graph
  rw [partition_of_forcesSingleComponent hmerge, if_neg hcands.ne'] at hstats
  have hsectors : (planSectors s p).sectors = st.tagsetSectors := sectors_planSectors s p hview
  obtain ⟨sec, hsec, hall⟩ := merged_tagsetSectors hcands hmerge
  obtain ⟨C, hC, -, htags, hcarry⟩ := hplan.from_component sec (by rw [hsec]; exact List.mem_singleton_self _)
  rw [Stages.kept_of_forcesSingleComponent hmerge hcands.ne'
    (Tuning.maxSets_pos p.consolidation p.overrides), List.mem_singleton] at hC
  subst hC
  refine ⟨⟨sec, hsectors.trans hsec, (hplan.items_sorted sec (by rw [hsec]; exact List.mem_singleton_self _)).2,
    fun i => ⟨fun hi => ?_, fun ⟨x, hx, hxi⟩ => hall i x hx hxi⟩, ?_⟩, hstats.1, hstats.2⟩
  · obtain ⟨j, hj, hji⟩ := hcarry i hi
    have hjlt : j < st.candidates.size := List.mem_range.1 hj
    exact ⟨st.candidates.tags[j], Array.getElem_mem hjlt, by rwa [← CandidateSet.tagAt_of_lt hjlt]⟩
  · rw [htags, List.map_take, map_tagAt_range, ← List.map_take]

theorem singletonPlan (hview : p.view = .tagsets)
    (hcands : 0 < (Stages.compute (Snapshot.ofApplications rows) p).candidates.size)
    (hstrict : (Stages.compute (Snapshot.ofApplications rows) p).tuning.forcesSingletons = true) :
    SingletonPlan (Snapshot.ofApplications rows) (Stages.compute (Snapshot.ofApplications rows) p).candidates
      (Stages.compute (Snapshot.ofApplications rows) p).tuning.maxSets
      (planSectors (Snapshot.ofApplications rows) p) := by
  set s := Snapshot.ofApplications rows
  set st := Stages.compute s p
  have hplan := tagsetsPlan_compute rows p
  have hstats := stats_planSectors_of_forces hview (isEmpty_eq_false_of_candidates hcands)
    hcands.ne' (by rw [hstrict, Bool.true_or]) st.graph
  rw [partition_of_forcesSingletons hstrict, List.length_map, List.length_range] at hstats
  have hsectors : (planSectors s p).sectors = st.tagsetSectors := sectors_planSectors s p hview
  refine ⟨fun sec hsec => ?_, hsectors ▸ hplan.tags_disjoint, hstats.1, hstats.2⟩
  obtain ⟨C, hC, -, htags, hcarry⟩ := hplan.from_component sec (hsectors ▸ hsec)
  rw [Stages.kept_of_forcesSingletons hstrict] at hC
  obtain ⟨j, hj, rfl⟩ := List.mem_map.1 hC
  have hj' := List.mem_range.1 hj
  have hjlt : j < st.candidates.size := lt_of_lt_of_le hj' (min_le_right _ _)
  -- a singleton component shows its one tag, since at least one tag is shown
  have hshown : sec.tags = [st.candidates.tagAt j] := by
    have hpos : [j].length ≤ st.tuning.maxSetSize := Tuning.maxSetSize_pos p.consolidation p.overrides
    rw [htags, List.take_of_length_le hpos, List.map_singleton]
  refine ⟨j, lt_of_lt_of_le hj' (min_le_left _ _), st.candidates.tags[j], Array.getElem?_eq_getElem hjlt,
    by rw [hshown, CandidateSet.tagAt_of_lt hjlt], fun i hi => ?_⟩
  obtain ⟨j', hj'', hji⟩ := hcarry i hi
  rw [List.mem_singleton] at hj''
  subst hj''
  rwa [← CandidateSet.tagAt_of_lt hjlt]

end Ends

/-- At the merged end of the consolidation the tagsets view of every snapshot with a candidate
plans one sector of exactly the items carrying a candidate tag, ascending, showing the first
candidate tags, with no edge and one component; at the strict end each sector shows one
candidate tag among the first `3 · maxSets`, distinct across sectors, and holds items carrying
it, with no edge and one component per candidate. -/
theorem consolidation_ends_plan (rows : List Application) (p : Params) (hview : p.view = .tagsets)
    (hcands : 0 < (Stages.compute (Snapshot.ofApplications rows) p).candidates.size) :
    ((Stages.compute (Snapshot.ofApplications rows) p).tuning.forcesSingleComponent = true →
        MergedPlan (Snapshot.ofApplications rows) (Stages.compute (Snapshot.ofApplications rows) p).candidates
          (Stages.compute (Snapshot.ofApplications rows) p).tuning.maxSetSize
          (planSectors (Snapshot.ofApplications rows) p)) ∧
      ((Stages.compute (Snapshot.ofApplications rows) p).tuning.forcesSingletons = true →
        SingletonPlan (Snapshot.ofApplications rows) (Stages.compute (Snapshot.ofApplications rows) p).candidates
          (Stages.compute (Snapshot.ofApplications rows) p).tuning.maxSets
          (planSectors (Snapshot.ofApplications rows) p)) :=
  ⟨mergedPlan hview hcands, singletonPlan hview hcands⟩

/-- Item 1 carries tag 10; item 2 carries tags 10 and 20. -/
def twoItemRows : List Application := [.prediction 1 10, .prediction 2 10, .prediction 2 20]

theorem candidates_pos_twoItemRows (c : Float) :
    0 < (Stages.compute (Snapshot.ofApplications twoItemRows)
      { consolidation := c }).candidates.size := by
  have hrank : (Snapshot.ofApplications twoItemRows).supportRanking = [(10, 2), (20, 1)] :=
    Snapshot.supportRanking_eq_of_perm (by decide +kernel) (by decide)
  exact size_selectCandidates_pos _ (by decide +kernel) (by simp [hrank]) (show 0 < 150 by omega)

/-- The two items at full consolidation, which merges, and at none, which splits. -/
theorem consolidation_ends_plan_two_items :
    (({ consolidation := 1.0 } : Params).view = .tagsets ∧
      0 < (Stages.compute (Snapshot.ofApplications twoItemRows) { consolidation := 1.0 }).candidates.size ∧
      ((Stages.compute (Snapshot.ofApplications twoItemRows) { consolidation := 1.0 }).tuning.forcesSingleComponent = true →
        MergedPlan (Snapshot.ofApplications twoItemRows)
          (Stages.compute (Snapshot.ofApplications twoItemRows) { consolidation := 1.0 }).candidates
          (Stages.compute (Snapshot.ofApplications twoItemRows) { consolidation := 1.0 }).tuning.maxSetSize
          (planSectors (Snapshot.ofApplications twoItemRows) { consolidation := 1.0 })) ∧
      ((Stages.compute (Snapshot.ofApplications twoItemRows) { consolidation := 1.0 }).tuning.forcesSingletons = true →
        SingletonPlan (Snapshot.ofApplications twoItemRows)
          (Stages.compute (Snapshot.ofApplications twoItemRows) { consolidation := 1.0 }).candidates
          (Stages.compute (Snapshot.ofApplications twoItemRows) { consolidation := 1.0 }).tuning.maxSets
          (planSectors (Snapshot.ofApplications twoItemRows) { consolidation := 1.0 }))) ∧
    (({ consolidation := 0.0 } : Params).view = .tagsets ∧
      0 < (Stages.compute (Snapshot.ofApplications twoItemRows) { consolidation := 0.0 }).candidates.size ∧
      ((Stages.compute (Snapshot.ofApplications twoItemRows) { consolidation := 0.0 }).tuning.forcesSingleComponent = true →
        MergedPlan (Snapshot.ofApplications twoItemRows)
          (Stages.compute (Snapshot.ofApplications twoItemRows) { consolidation := 0.0 }).candidates
          (Stages.compute (Snapshot.ofApplications twoItemRows) { consolidation := 0.0 }).tuning.maxSetSize
          (planSectors (Snapshot.ofApplications twoItemRows) { consolidation := 0.0 })) ∧
      ((Stages.compute (Snapshot.ofApplications twoItemRows) { consolidation := 0.0 }).tuning.forcesSingletons = true →
        SingletonPlan (Snapshot.ofApplications twoItemRows)
          (Stages.compute (Snapshot.ofApplications twoItemRows) { consolidation := 0.0 }).candidates
          (Stages.compute (Snapshot.ofApplications twoItemRows) { consolidation := 0.0 }).tuning.maxSets
          (planSectors (Snapshot.ofApplications twoItemRows) { consolidation := 0.0 }))) :=
  ⟨⟨rfl, candidates_pos_twoItemRows 1.0,
      consolidation_ends_plan _ _ rfl (candidates_pos_twoItemRows 1.0)⟩,
    ⟨rfl, candidates_pos_twoItemRows 0.0,
      consolidation_ends_plan _ _ rfl (candidates_pos_twoItemRows 0.0)⟩⟩

/-- Full consolidation forces one component and none forces singletons. -/
example : (Tuning.derive 1.0 {}).forcesSingleComponent = true ∧
    (Tuning.derive 0.0 {}).forcesSingletons = true := by decide

end TagAtlas
