import TagAtlas.Proofs.OverlapSectors
/-! Plans read only which tags each item carries. The two tables of a snapshot place their keys
by hash, so rows taken in another order, repeated, or mixed with rows that do not count leave
the keys in other slots, and a walk over a table meets them in another order. Every stage of a
plan that walks a table sorts what it reads by a strict order on distinct keys, or keeps only a
count or a membership. Hence two valid snapshots whose items carry the same tags select the same
candidates, list the same memberships, score the same edges, intersect to the same items and
plan the same sectors with the same counts; and snapshots of rows with the same counted
(item, tag) pairs plan alike. -/
namespace TagAtlas

open SlotTable

/-- The items of an id set, as a finite set: what is left of the set once where each item sits
is forgotten. -/
def keySet (set : IdSet) : Finset Int := set.keys.toFinset

@[simp] theorem mem_keySet {set : IdSet} {i : Int} : i ∈ keySet set ↔ i ∈ set.keys :=
  List.mem_toFinset

section Sets

/-- Id sets with the same items list them alike once sorted. -/
theorem sortedKeys_eq_of_keySet_eq {a a' : IdSet} (hwf : WF hashId a) (hwf' : WF hashId a')
    (h : keySet a = keySet a') : a.keys.mergeSort (· ≤ ·) = a'.keys.mergeSort (· ≤ ·) :=
  List.Pairwise.eq_of_mem_iff (pairwise_lt_mergeSort hwf.nodup)
    (pairwise_lt_mergeSort hwf'.nodup) fun i => by
      rw [List.mem_mergeSort, List.mem_mergeSort, ← mem_keySet, h, mem_keySet]

/-- An item is common to sets, taken smallest first, exactly when there is a set and every set
holds it: which set the walk starts from does not matter. -/
theorem mem_commonItems_mergeSort {sets : List IdSet} (hwf : ∀ set ∈ sets, WF hashId set)
    (i : Int) : i ∈ commonItems (sets.mergeSort sizeLE) ↔
      sets.map keySet ≠ [] ∧ ∀ k ∈ sets.map keySet, i ∈ k := by
  have hperm := List.mergeSort_perm sets sizeLE
  rw [mem_commonItems fun set hset => hwf set (hperm.mem_iff.1 hset)]
  simp only [ne_eq, List.map_eq_nil_iff, List.forall_mem_map, mem_keySet]
  have hnil : sets.mergeSort sizeLE = [] ↔ sets = [] := by
    rw [← List.isEmpty_iff, hperm.isEmpty_eq, List.isEmpty_iff]
  exact and_congr (not_congr hnil) (forall_congr' fun set => imp_congr_left hperm.mem_iff)

/-- Sets with the same items, one for one, have the same sorted common items. -/
theorem sortedCommon_eq_of_keySets_eq {sets sets' : List IdSet}
    (hwf : ∀ set ∈ sets, WF hashId set) (hwf' : ∀ set ∈ sets', WF hashId set)
    (h : sets.map keySet = sets'.map keySet) :
    (commonItems (sets.mergeSort sizeLE)).mergeSort (· ≤ ·) =
      (commonItems (sets'.mergeSort sizeLE)).mergeSort (· ≤ ·) := by
  have hsorted (l : List IdSet) (hl : ∀ set ∈ l, WF hashId set) :
      ((commonItems (l.mergeSort sizeLE)).mergeSort (· ≤ ·)).Pairwise (· < ·) :=
    pairwise_lt_mergeSort (nodup_commonItems fun set hset => hl set (List.mem_mergeSort.1 hset))
  refine List.Pairwise.eq_of_mem_iff (hsorted sets hwf) (hsorted sets' hwf') fun i => ?_
  rw [List.mem_mergeSort, List.mem_mergeSort, mem_commonItems_mergeSort hwf,
    mem_commonItems_mergeSort hwf', h]

end Sets

section ItemSets

variable {s : Snapshot} {cands : CandidateSet}

/-- The items of the sets fetched for a tag set: a failed fetch fails, a tag on no item stops
with `none`, and otherwise the tag's items go in front of those of the rest. -/
theorem itemSets_cons_keySets (i : Nat) (rest : List Nat) :
    (itemSets s cands (i :: rest)).map (Option.map (List.map keySet)) =
      (cands.fetch i).bind fun c => match (s.holders c.tag).map keySet with
        | none => pure none
        | some k =>
          ((itemSets s cands rest).map (Option.map (List.map keySet))).map (Option.map (k :: ·)) := by
  rw [itemSets]
  cases cands.fetch i with
  | error e => rfl
  | ok c =>
    simp only [bind, Except.bind]
    cases s.holders c.tag with
    | none => rfl
    | some a =>
      cases itemSets s cands rest with
      | error e => rfl
      | ok r => cases r <;> rfl

/-- Fetching the sets of a nonempty tag set succeeds with sets only when the first index is a
candidate whose tag has a set, and the sets are that set followed by those of the rest. -/
theorem eq_cons_of_itemSets_cons {i : Nat} {rest : List Nat} {sets : List IdSet}
    (h : itemSets s cands (i :: rest) = .ok (some sets)) :
    ∃ c set sets', cands.fetch i = .ok c ∧ s.holders c.tag = some set ∧
      itemSets s cands rest = .ok (some sets') ∧ sets = set :: sets' := by
  rw [itemSets] at h
  cases hfetch : cands.fetch i with
  | error e => simp [hfetch, bind, Except.bind] at h
  | ok c =>
    simp only [hfetch, bind, Except.bind] at h
    cases hc : s.holders c.tag with
    | none => simp [hc, pure, Except.pure] at h
    | some set =>
      simp only [hc] at h
      cases hrest : itemSets s cands rest with
      | error e => simp [hrest] at h
      | ok r =>
        cases r with
        | none => simp [hrest, pure, Except.pure] at h
        | some sets' =>
          simp only [hrest, pure, Except.pure, Except.ok.injEq, Option.some.injEq] at h
          exact ⟨c, set, sets', rfl, hc, rfl, h.symm⟩

/-- Every set fetched for a tag set is the set of some tag. -/
theorem exists_holders_of_itemSets {ts : List Nat} {sets : List IdSet}
    (h : itemSets s cands ts = .ok (some sets)) {set : IdSet} (hset : set ∈ sets) :
    ∃ t, s.holders t = some set := by
  induction ts generalizing sets with
  | nil =>
    cases h
    cases hset
  | cons i rest ih =>
    obtain ⟨c, first, sets', -, hc, hrest, rfl⟩ := eq_cons_of_itemSets_cons h
    rcases List.mem_cons.1 hset with rfl | hmem
    · exact ⟨c.tag, hc⟩
    · exact ih hrest hmem

end ItemSets

section Same

variable {s s' : Snapshot} (hs : s.Valid) (hs' : s'.Valid)
  (hsame : ∀ i t, t ∈ s.tagsOf i ↔ t ∈ s'.tagsOf i)
include hs hs' hsame

/-- A tag has the same items in both snapshots, though its sets may place them apart. -/
theorem Snapshot.Valid.holders_keySet_congr (t : Int) :
    (s.holders t).map keySet = (s'.holders t).map keySet := by
  have hsome := hs.holders_isSome_congr hs' hsame t
  have hmem (i : Int) := hs.mem_itemsWith_congr hs' hsame t i
  cases h : s.holders t with
  | none =>
    cases h' : s'.holders t with
    | none => rfl
    | some _ => simp [h, h'] at hsome
  | some a =>
    cases h' : s'.holders t with
    | none => simp [h, h'] at hsome
    | some a' =>
      simp only [Snapshot.itemsWith, h, h', Option.map_some, Option.getD_some] at hmem
      exact congrArg some (Finset.ext fun i => by rw [mem_keySet, mem_keySet, hmem])

/-- Fetching the sets of a tag set fails alike, stops alike, and gives sets with the same
items in both snapshots. -/
theorem Snapshot.Valid.itemSets_keySets_congr (cands : CandidateSet) (ts : List Nat) :
    (itemSets s cands ts).map (Option.map (List.map keySet)) =
      (itemSets s' cands ts).map (Option.map (List.map keySet)) := by
  induction ts with
  | nil => rfl
  | cons i rest ih =>
    rw [itemSets_cons_keySets, itemSets_cons_keySets, ih]
    congr 1
    funext c
    rw [hs.holders_keySet_congr hs' hsame c.tag]

/-- The items carrying every tag of a tag set are the same in both snapshots, and a tag set
that reads past the candidates fails in both. -/
theorem Snapshot.Valid.intersection_congr (cands : CandidateSet) (ts : List Nat) :
    intersection s cands ts = intersection s' cands ts := by
  have hk := hs.itemSets_keySets_congr hs' hsame cands ts
  have hwf {s : Snapshot} (hs : s.Valid) {sets} (h : itemSets s cands ts = .ok (some sets)) :
      ∀ set ∈ sets, WF hashId set := fun set hset => by
    obtain ⟨t, ht⟩ := exists_holders_of_itemSets h hset
    exact hs.holders_wf t set ht
  unfold intersection
  cases h : itemSets s cands ts with
  | error e =>
    cases h' : itemSets s' cands ts with
    | error e' =>
      rw [h, h'] at hk
      cases hk
      rfl
    | ok r' =>
      rw [h, h'] at hk
      cases hk
  | ok r =>
    cases h' : itemSets s' cands ts with
    | error e' =>
      rw [h, h'] at hk
      cases hk
    | ok r' =>
      rw [h, h'] at hk
      cases r with
      | none => cases r' with
        | none => rfl
        | some _ => cases hk
      | some sets => cases r' with
        | none => cases hk
        | some sets' =>
          have hmap : sets.map keySet = sets'.map keySet := by
            simpa [Except.map] using hk
          exact congrArg Except.ok
            (sortedCommon_eq_of_keySets_eq (hwf hs h) (hwf hs' h') hmap)

theorem Snapshot.Valid.intersectionLen_congr (cands : CandidateSet) (ts : List Nat) :
    intersectionLen s cands ts = intersectionLen s' cands ts := by
  rw [intersectionLen_eq, intersectionLen_eq, hs.intersection_congr hs' hsame]

/-- The overlap cover reads the snapshot only through its intersections, so it is the same. -/
theorem Snapshot.Valid.overlapSectors_congr (cands : CandidateSet) (g : NeighborGraph) (t : Tuning)
    (components : List Component) :
    overlapSectors s cands g t components = overlapSectors s' cands g t components := by
  simp only [overlapSectors, triads, triadFor, hs.intersection_congr hs' hsame,
    hs.intersectionLen_congr hs' hsame]

theorem Snapshot.Valid.selectCandidates_congr (maxTags minSupport : Nat) :
    selectCandidates s maxTags minSupport = selectCandidates s' maxTags minSupport := by
  simp only [selectCandidates, hs.isEmpty_congr hs' hsame, hs.supportRanking_congr hs' hsame]

theorem Snapshot.Valid.memberships_congr (cands : CandidateSet) :
    cands.memberships s = cands.memberships s' := by
  rw [CandidateSet.memberships, CandidateSet.memberships, hs.itemTags_congr hs' hsame]

theorem Snapshot.Valid.edgesOf_congr (cands : CandidateSet) (m : List (Int × List Nat)) (t : Tuning) :
    edgesOf s cands m t = edgesOf s' cands m t := by
  rw [edgesOf, edgesOf, hs.totalItems_congr hs' hsame]

/-- A candidate's sector lists its tag's items sorted, the same in both snapshots. -/
theorem Snapshot.Valid.singleTagSectors_congr (cands : CandidateSet) (maxSets : Nat) :
    singleTagSectors s cands maxSets = singleTagSectors s' cands maxSets := by
  have hsector (tag : Int) : (s.holders tag).map (fun set => set.keys.mergeSort (· ≤ ·)) =
      (s'.holders tag).map (fun set => set.keys.mergeSort (· ≤ ·)) := by
    have hk := hs.holders_keySet_congr hs' hsame tag
    cases h : s.holders tag with
    | none =>
      cases h' : s'.holders tag with
      | none => rfl
      | some _ => simp [h, h'] at hk
    | some a =>
      cases h' : s'.holders tag with
      | none => simp [h, h'] at hk
      | some a' =>
        simp only [h, h', Option.map_some, Option.some.injEq] at hk
        exact congrArg some (sortedKeys_eq_of_keySet_eq (hs.holders_wf tag a h)
          (hs'.holders_wf tag a' h') hk)
  unfold singleTagSectors
  congr 1
  refine List.filterMap_congr fun c _ => ?_
  have hc := congrArg (Option.map fun items => (⟨[c.tag], items⟩ : PlannedSector)) (hsector c.tag)
  rw [Option.map_map, Option.map_map] at hc
  exact hc

/-- Valid snapshots whose items carry the same tags plan alike, sectors and counts. -/
theorem Snapshot.Valid.planSectors_congr (p : Params) : planSectors s p = planSectors s' p := by
  simp only [planSectors, hs.totalItems_congr hs' hsame, hs.isEmpty_congr hs' hsame,
    hs.selectCandidates_congr hs' hsame, hs.singleTagSectors_congr hs' hsame,
    hs.memberships_congr hs' hsame, hs.edgesOf_congr hs' hsame,
    hs.overlapSectors_congr hs' hsame]

end Same

/-- Rows with the same counted (item, tag) pairs give the same plan for every query, whatever
their order, their repeats, and the negative or unattributed rows among them. -/
theorem planSectors_eq_of_countedPairs (r₁ r₂ : List Application)
    (h : (countedPairs r₁).toFinset = (countedPairs r₂).toFinset) (p : Params) :
    planSectors (Snapshot.ofApplications r₁) p = planSectors (Snapshot.ofApplications r₂) p := by
  refine (Snapshot.valid_ofApplications r₁).planSectors_congr (Snapshot.valid_ofApplications r₂)
    (fun i t => ?_) p
  rw [Snapshot.mem_tagsOf_ofApplications, Snapshot.mem_tagsOf_ofApplications, ← List.mem_toFinset,
    h, List.mem_toFinset]

theorem planSectors_reordered_rows :
    (countedPairs [.prediction 1 5, .byContributor 2 5 7, .prediction 1 6]).toFinset =
        (countedPairs [.prediction 1 6, { item := 3, tag := 5, negative := true, contributor := some 7 },
          .prediction 1 5, .byContributor 2 5 9, .prediction 1 5, { item := 4, tag := 6 }]).toFinset ∧
      planSectors (Snapshot.ofApplications [.prediction 1 5, .byContributor 2 5 7, .prediction 1 6]) {} =
        planSectors (Snapshot.ofApplications [.prediction 1 6,
          { item := 3, tag := 5, negative := true, contributor := some 7 }, .prediction 1 5,
          .byContributor 2 5 9, .prediction 1 5, { item := 4, tag := 6 }]) {} :=
  ⟨by decide, planSectors_eq_of_countedPairs _ _ (by decide) _⟩

end TagAtlas
