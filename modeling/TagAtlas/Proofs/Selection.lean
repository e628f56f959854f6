import TagAtlas.Proofs.CorpusIndex
/-! Candidate selection. Selection reads the first `3 · maxTags` entries of the support
ranking, keeps those that reach the least support, and falls back to the top of the scan when
fewer than `min 25 maxTags` of them do; either way it keeps at most `maxTags`. The candidates
are therefore a sublist of the ranking, so their tag ids are distinct and strictly ordered by
support descending, then id ascending, and the index of a tag id is its position. Main
statement: `selectCandidates_spec`. -/
namespace TagAtlas

/-- The ranking entries selection keeps: of the first `3 · maxTags`, the first `maxTags` that
reach the least support when at least `min 25 maxTags` do, and else the first `maxTags`. -/
def rankingCut (ranking : List (Int × Nat)) (maxTags minSupport : Nat) : List (Int × Nat) :=
  let scan := ranking.take (3 * maxTags)
  let passing := scan.filter fun e => minSupport ≤ e.2
  if min 25 maxTags ≤ passing.length then passing.take maxTags else scan.take maxTags

section Cut

variable {ranking : List (Int × Nat)} {maxTags minSupport : Nat}

theorem rankingCut_sublist : (rankingCut ranking maxTags minSupport).Sublist ranking := by
  unfold rankingCut
  dsimp only
  split
  · exact (List.take_sublist _ _).trans (List.filter_sublist.trans (List.take_sublist _ _))
  · exact (List.take_sublist _ _).trans (List.take_sublist _ _)

theorem length_rankingCut_le : (rankingCut ranking maxTags minSupport).length ≤ maxTags := by
  unfold rankingCut
  dsimp only
  split <;> exact List.length_take_le _ _

@[simp] theorem rankingCut_nil : rankingCut [] maxTags minSupport = [] := by
  simp [rankingCut]

@[simp] theorem rankingCut_zero : rankingCut ranking 0 minSupport = [] := by
  simp [rankingCut]

/-- A non-empty ranking leaves a non-empty cut for a positive number of tags. -/
theorem rankingCut_ne_nil (hr : ranking ≠ []) (hm : 0 < maxTags) :
    rankingCut ranking maxTags minSupport ≠ [] := by
  unfold rankingCut
  dsimp only
  split
  · rename_i hpass
    -- the fallback threshold is at least one, so some scanned entry passes
    have hpos : 0 < ((ranking.take (3 * maxTags)).filter fun e => minSupport ≤ e.2).length := by
      omega
    simp [List.take_eq_nil_iff, List.ne_nil_of_length_pos hpos, Nat.pos_iff_ne_zero.1 hm]
  · simp [List.take_eq_nil_iff, hr, Nat.pos_iff_ne_zero.1 hm]

end Cut

/-- A snapshot with no item has no tag to rank. -/
theorem Snapshot.Valid.supportRanking_eq_nil {s : Snapshot} (hs : s.Valid) (h : s.isEmpty = true) :
    s.supportRanking = [] := by
  have hnil : s.itemTags = [] := by
    rw [Snapshot.isEmpty_eq_totalItems, beq_iff_eq, Snapshot.totalItems_eq_length_itemTags] at h
    exact List.eq_nil_of_length_eq_zero h
  refine List.eq_nil_iff_forall_not_mem.2 fun e he => ?_
  obtain ⟨i, hi⟩ := hs.mem_supportRanking_keys.1 (List.mem_map.2 ⟨e, he, rfl⟩)
  have hitem := hs.mem_items.2 ⟨e.1, hi⟩
  rw [hnil] at hitem
  cases hitem

/-- Selection keeps the cut of the ranking, each entry as a candidate with its support. -/
theorem selectCandidates_tags {s : Snapshot} (hs : s.Valid) (maxTags minSupport : Nat) :
    (selectCandidates s maxTags minSupport).tags.toList =
      (rankingCut s.supportRanking maxTags minSupport).map fun e => ⟨e.1, e.2⟩ := by
  unfold selectCandidates
  split
  · rename_i h
    rcases Bool.or_eq_true_iff.1 h with hempty | hzero
    · simp [hs.supportRanking_eq_nil hempty]
    · simp [beq_iff_eq.1 hzero]
  · simp only [minCandidates, rankingCut, ge_iff_le]
    -- the two thresholds are one comparison read either way round
    split_ifs with hfew henough henough
    · omega
    · rw [List.take_take, Nat.min_self]
    · rfl
    · omega

/-- What the selected candidates promise, for a snapshot, a tag budget and a least support. -/
structure SelectionSpec (s : Snapshot) (maxTags minSupport : Nat) (c : CandidateSet) : Prop where
  /-- The candidates are, in order, the ranking entries that selection keeps. -/
  entries : c.tags.toList.map (fun x => (x.tag, x.support)) =
    rankingCut s.supportRanking maxTags minSupport
  support_eq : ∀ x ∈ c.tags, x.support = s.support x.tag
  size_le : c.size ≤ maxTags
  distinct : c.Distinct
  sorted : c.tags.toList.Pairwise fun x y =>
    y.support < x.support ∨ x.support = y.support ∧ x.tag < y.tag
  /-- The index of a candidate's tag id is its position; other tag ids have none. -/
  indexOf_tag : ∀ i x, c.tags[i]? = some x → c.indexOf x.tag = some i
  indexOf_none : ∀ t, (∀ x ∈ c.tags, x.tag ≠ t) → c.indexOf t = none
  nonempty : 0 < s.totalItems → 0 < maxTags → 0 < c.size

/-- Selection over every snapshot built from rows keeps the first `maxTags` ranking entries of
the scan that reach the least support, or the top of the scan when too few do; the candidates
carry their supports, are distinct and strictly ranked, are found at their positions by the
index, and are there whenever an item and a budget are. -/
theorem selectCandidates_spec (rows : List Application) (maxTags minSupport : Nat) :
    SelectionSpec (Snapshot.ofApplications rows) maxTags minSupport
      (selectCandidates (Snapshot.ofApplications rows) maxTags minSupport) := by
  have hspec := snapshot_index_spec rows
  set s := Snapshot.ofApplications rows
  set c := selectCandidates s maxTags minSupport
  have htags : c.tags.toList = (rankingCut s.supportRanking maxTags minSupport).map
      fun e => ⟨e.1, e.2⟩ := selectCandidates_tags (Snapshot.valid_ofApplications rows) maxTags minSupport
  have hentries : c.tags.toList.map (fun x => (x.tag, x.support)) =
      rankingCut s.supportRanking maxTags minSupport := by
    rw [htags, List.map_map]
    exact List.map_id' _ |>.trans rfl
  have hsub : (c.tags.toList.map fun x => (x.tag, x.support)).Sublist s.supportRanking :=
    hentries ▸ rankingCut_sublist
  have hmem : ∀ x ∈ c.tags, (x.tag, x.support) ∈ s.supportRanking := fun x hx =>
    hsub.subset (List.mem_map_of_mem (Array.mem_toList_iff.2 hx))
  have hdistinct : c.Distinct := by
    have := hspec.ranking_nodup.sublist (hsub.map Prod.fst)
    rwa [List.map_map] at this
  refine ⟨hentries, fun x hx => hspec.ranking_support _ (hmem x hx), ?_, hdistinct, ?_,
    fun i x hx => (CandidateSet.indexOf_eq_some_iff hdistinct).2 ⟨x, hx, rfl⟩, ?_, ?_⟩
  · have := @length_rankingCut_le s.supportRanking maxTags minSupport
    rw [← hentries, List.length_map, Array.length_toList] at this
    exact this
  · have := (hspec.ranking_sorted.sublist hsub)
    rwa [List.pairwise_map] at this
  · intro t ht
    cases h : c.indexOf t with
    | none => rfl
    | some j =>
      obtain ⟨x, hx, rfl⟩ := CandidateSet.indexOf_eq_some h
      exact absurd rfl (ht x (Array.mem_of_getElem? hx))
  · intro hitems hm
    obtain ⟨i, hi⟩ := Finset.card_pos.1 (hspec.totalItems_eq ▸ hitems)
    obtain ⟨t, ht⟩ := mem_carriedItems.1 hi
    obtain ⟨e, he, -⟩ := List.mem_map.1 ((hspec.mem_ranking t).2 ⟨i, ht⟩)
    have hr : s.supportRanking ≠ [] := List.ne_nil_of_mem he
    have hcut := @rankingCut_ne_nil _ _ minSupport hr hm
    rw [← hentries] at hcut
    have hlen := List.length_pos_iff.2 hcut
    rwa [List.length_map, Array.length_toList] at hlen

end TagAtlas
