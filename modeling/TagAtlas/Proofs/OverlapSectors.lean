import TagAtlas.Proofs.MacroCores
import TagAtlas.Proofs.CustomTagset
import TagAtlas.Proofs.CorpusIndex
import TagAtlas.Proofs.TopNeighbors
/-! The overlapping sectors. The items of a tag set of candidates are exactly the items that
carry all its tags, ascending, whatever the order of the merge. Triads are the two ends of an
edge among the first neighbours of a tag and a neighbour both list, with enough items in
common. Over a graph built on the candidates and components of sorted candidates, the cover is
good, so every sector shows two or more distinct candidates in ascending dense index with the
items carrying all of them, no two sectors show one tag set, there are no more than the total,
and each sector is a macro core or a triad. Main statement: `overlapSectors_spec`. -/
namespace TagAtlas

namespace Snapshot

/-- The items carrying every tag of a list, ascending. -/
def carriers (s : Snapshot) (tags : List Int) : List Int :=
  (s.itemTags.map Prod.fst).filter fun i => tags.all fun tg => tg ∈ s.tagsOf i

/-- Which items carry a list of tags depends only on which tags it holds. -/
theorem carriers_congr (s : Snapshot) {l l' : List Int} (h : ∀ tg, tg ∈ l ↔ tg ∈ l') :
    s.carriers l = s.carriers l' := by
  unfold carriers
  congr 1
  funext i
  simp only [List.all_eq, h]

section Valid

variable {s : Snapshot} (hs : s.Valid)
include hs

theorem Valid.carriers_sorted (tags : List Int) : (s.carriers tags).Pairwise (· < ·) :=
  hs.items_sorted.sublist List.filter_sublist

/-- An item carries a non-empty list of tags exactly when every tag of it is among its tags. -/
theorem Valid.mem_carriers {tags : List Int} (hne : tags ≠ []) {i : Int} :
    i ∈ s.carriers tags ↔ ∀ tg ∈ tags, tg ∈ s.tagsOf i := by
  simp only [carriers, List.mem_filter, List.all_eq_true, decide_eq_true_eq]
  refine ⟨And.right, fun hall => ⟨?_, hall⟩⟩
  obtain ⟨tg, htg⟩ := List.exists_mem_of_ne_nil _ hne
  exact hs.mem_items.2 ⟨tg, hall tg htg⟩

end Valid

end Snapshot

section Intersection

variable {s : Snapshot} {cands : CandidateSet}

/-- The item sets of a tag set of candidates, looked up one tag after the other. -/
theorem itemSets_eq {ts : List Nat} (h : ∀ i ∈ ts, i < cands.size) :
    itemSets s cands ts = .ok (ts.mapM fun i => s.holders (cands.tagAt i)) := by
  induction ts with
  | nil => rfl
  | cons i rest ih =>
    have hi := h i List.mem_cons_self
    rw [itemSets, CandidateSet.fetch_of_lt hi, List.mapM_cons, CandidateSet.tagAt_of_lt hi]
    simp only [bind, Except.bind, pure, Except.pure]
    cases s.holders cands.tags[i].tag with
    | none => rfl
    | some items =>
      rw [ih fun j hj => h j (List.mem_cons_of_mem _ hj)]
      cases rest.mapM fun i => s.holders (cands.tagAt i) <;> rfl

/-- Counting the common items of a tag set counts what its intersection lists. -/
theorem intersectionLen_eq (ts : List Nat) :
    intersectionLen s cands ts = (intersection s cands ts).map List.length := by
  unfold intersectionLen intersection
  cases itemSets s cands ts with
  | error e => rfl
  | ok r =>
    cases r with
    | none => rfl
    | some sets =>
      simp only [bind, Except.bind, pure, Except.pure, Except.map, List.length_mergeSort]

/-- An item is common to sets that work exactly when there is a set and every set holds it. -/
theorem mem_commonItems {sets : List IdSet} (hwf : ∀ set ∈ sets, SlotTable.WF hashId set)
    (i : Int) : i ∈ commonItems sets ↔ sets ≠ [] ∧ ∀ set ∈ sets, i ∈ set.keys := by
  cases sets with
  | nil => simp [commonItems]
  | cons base rest =>
    simp only [commonItems, List.mem_filter, List.all_eq_true, ne_eq, reduceCtorEq,
      not_false_eq_true, true_and, List.forall_mem_cons]
    exact and_congr_right fun _ => forall₂_congr fun set hset =>
      (hwf set (List.mem_cons_of_mem _ hset)).contains_iff

theorem nodup_commonItems {sets : List IdSet} (hwf : ∀ set ∈ sets, SlotTable.WF hashId set) :
    (commonItems sets).Nodup := by
  cases sets with
  | nil => exact List.nodup_nil
  | cons base rest => exact (hwf base List.mem_cons_self).nodup.filter _

/-- An item is in every set fetched for a tag set exactly when it carries every tag. -/
theorem forall_mem_of_mapM_holders (hs : s.Valid) {ts : List Nat} {sets : List IdSet}
    (hm : ts.mapM (fun i => s.holders (cands.tagAt i)) = some sets) (i : Int) :
    (∀ set ∈ sets, i ∈ set.keys) ↔ ∀ tg ∈ ts.map cands.tagAt, tg ∈ s.tagsOf i := by
  obtain ⟨hsome, hmem⟩ := mem_of_mapM_eq_some hm
  simp only [List.forall_mem_map]
  constructor
  · intro hin j hj
    obtain ⟨set, hset⟩ := Option.isSome_iff_exists.1 (hsome j hj)
    rw [← hs.mem_itemsWith, Snapshot.itemsWith, hset]
    exact hin set ((hmem set).2 ⟨j, hj, hset⟩)
  · intro hin set hset
    obtain ⟨j, hj, hjset⟩ := (hmem set).1 hset
    simpa [Snapshot.itemsWith, hjset] using (hs.mem_itemsWith).2 (hin j hj)

/-- The items of a non-empty tag set of candidates are exactly those carrying all its tags,
whichever set the walk starts from. -/
theorem intersection_eq (hs : s.Valid) {ts : List Nat} (hne : ts ≠ [])
    (h : ∀ i ∈ ts, i < cands.size) :
    intersection s cands ts = .ok (s.carriers (ts.map cands.tagAt)) := by
  have hne' : ts.map cands.tagAt ≠ [] := by simpa using hne
  rw [intersection, itemSets_eq h]
  simp only [bind, Except.bind, pure, Except.pure]
  cases hm : ts.mapM fun i => s.holders (cands.tagAt i) with
  | none =>
    obtain ⟨j, hj, hnone⟩ := exists_of_mapM_eq_none hm
    refine congrArg Except.ok (List.eq_nil_iff_forall_not_mem.2 fun i hi => ?_).symm
    have hcarry := (hs.mem_carriers hne').1 hi _ (List.mem_map_of_mem hj)
    rw [← hs.mem_itemsWith, Snapshot.itemsWith, hnone] at hcarry
    cases hcarry
  | some sets =>
    obtain ⟨hsome, hmem⟩ := mem_of_mapM_eq_some hm
    have hwf : ∀ set ∈ sets.mergeSort sizeLE, SlotTable.WF hashId set := fun set hset => by
      obtain ⟨j, -, hj⟩ := (hmem set).1 (List.mem_mergeSort.1 hset)
      exact hs.holders_wf _ set hj
    have hsets : sets.mergeSort sizeLE ≠ [] := by
      obtain ⟨j, hj⟩ := List.exists_mem_of_ne_nil _ hne
      obtain ⟨set, hset⟩ := Option.isSome_iff_exists.1 (hsome j hj)
      exact List.ne_nil_of_mem (List.mem_mergeSort.2 ((hmem set).2 ⟨j, hj, hset⟩))
    refine congrArg Except.ok (List.Pairwise.eq_of_mem_iff
      (pairwise_lt_mergeSort (nodup_commonItems hwf)) (hs.carriers_sorted _) fun i => ?_)
    rw [List.mem_mergeSort, mem_commonItems hwf, hs.mem_carriers hne',
      ← forall_mem_of_mapM_holders hs hm]
    simp only [hsets, ne_eq, not_false_eq_true, true_and]
    exact forall_congr' fun set => imp_congr_left List.mem_mergeSort

end Intersection

namespace NeighborGraph

variable {g : NeighborGraph}

/-- A shared neighbour of two tags is listed by both and is neither. -/
theorem mem_sharedNeighbors {a b c : Nat} (h : c ∈ g.sharedNeighbors a b) :
    c ∈ (g.neighbors a).map Neighbor.tag ∧ c ∈ (g.neighbors b).map Neighbor.tag ∧ c ≠ a ∧ c ≠ b := by
  unfold sharedNeighbors at h
  obtain ⟨x, hx, rfl⟩ := List.mem_map.1 h
  obtain ⟨nb, hnb, hsome⟩ := List.mem_filterMap.1 (List.mem_mergeSort.1 hx)
  split at hsome
  · rename_i hkeep
    cases hsome
    simp only [Bool.and_eq_true, bne_iff_ne, ne_eq] at hkeep
    exact ⟨List.mem_map_of_mem hnb, contains_iff.1 hkeep.1.2, hkeep.2, hkeep.1.1⟩
  · cases hsome

/-- Every edge a triad scan walks joins a tag to one of its first `triadScan` neighbours. -/
theorem mem_triadEdges_scan (t : Tuning) : ∀ e ∈ triadEdges g t,
    ∃ x < g.size, ∃ nb ∈ (g.neighbors x).take t.triadScan, e.1 = min x nb.tag ∧ e.2.1 = max x nb.tag := by
  unfold triadEdges
  dsimp only
  intro e he
  replace he := List.mem_mergeSort.1 he
  revert e he
  refine List.foldlRecOn (motive := fun acc : List (Nat × Nat × Float × Nat) => ∀ e ∈ acc,
    ∃ x < g.size, ∃ nb ∈ (g.neighbors x).take t.triadScan, e.1 = min x nb.tag ∧ e.2.1 = max x nb.tag)
    _ _ (by simp) fun acc hacc a ha => ?_
  refine List.foldlRecOn (motive := fun acc : List (Nat × Nat × Float × Nat) => ∀ e ∈ acc,
    ∃ x < g.size, ∃ nb ∈ (g.neighbors x).take t.triadScan, e.1 = min x nb.tag ∧ e.2.1 = max x nb.tag)
    _ _ hacc fun acc hacc nb hnb => ?_
  split_ifs
  · exact hacc
  · exact List.forall_mem_append.2 ⟨hacc, List.forall_mem_singleton.2
      ⟨a, List.mem_range.1 ha, nb, hnb, rfl, rfl⟩⟩

end NeighborGraph

/-- A triad: the two ends of an edge among the first `triadScan` neighbours of a tag, and a third
tag both ends list, with at least `minPair` items carrying all three. -/
def IsTriad (s : Snapshot) (cands : CandidateSet) (g : NeighborGraph) (t : Tuning) (ts : List Nat) :
    Prop :=
  ∃ a b c, a ≠ b ∧ c ≠ a ∧ c ≠ b ∧ (∀ x, x ∈ ts ↔ x = a ∨ x = b ∨ x = c) ∧
    (∃ x, ∃ nb ∈ (g.neighbors x).take t.triadScan, s(a, b) = s(x, nb.tag)) ∧
    c ∈ (g.neighbors a).map Neighbor.tag ∧ c ∈ (g.neighbors b).map Neighbor.tag ∧
    t.minPair ≤ (s.carriers (ts.map cands.tagAt)).length

/-- The ends of a scanned edge, smaller first, with a neighbour both list, make a triad as any
list holding just those three, once enough items carry them. -/
theorem isTriad_of_mem_iff {s : Snapshot} {cands : CandidateSet} {g : NeighborGraph} (t : Tuning)
    {x c : Nat} {nb : Neighbor} {ts : List Nat} (hnb : nb ∈ (g.neighbors x).take t.triadScan)
    (hxy : nb.tag ≠ x) (hc : c ∈ g.sharedNeighbors (min x nb.tag) (max x nb.tag))
    (hmem : ∀ y, y ∈ ts ↔ y = min x nb.tag ∨ y = max x nb.tag ∨ y = c)
    (hpair : t.minPair ≤ (s.carriers (ts.map cands.tagAt)).length) :
    IsTriad s cands g t ts := by
  obtain ⟨hca, hcb, hca', hcb'⟩ := NeighborGraph.mem_sharedNeighbors hc
  refine ⟨min x nb.tag, max x nb.tag, c, by omega, hca', hcb', hmem, ⟨x, nb, hnb, ?_⟩, hca, hcb,
    hpair⟩
  rcases le_total x nb.tag with hle | hle
  · rw [min_eq_left hle, max_eq_right hle]
  · rw [min_eq_right hle, max_eq_left hle]
    exact Sym2.eq_swap

section Triads

variable {s : Snapshot} {cands : CandidateSet} {g : NeighborGraph} (hs : s.Valid)
  (hg : ∀ x, ∀ nb ∈ g.neighbors x, nb.tag < cands.size)
include hs hg

/-- Looking for a triad on an edge of candidates succeeds, and a triad found is the edge with
one of its shared neighbours, with at least `minPair` items carrying all three tags. -/
theorem triadFor_found (t : Tuning) (cover : Cover) {a b : Nat} (ha : a < cands.size)
    (hb : b < cands.size) :
    ∃ r, triadFor s cands g t cover a b = .ok r ∧ ∀ sig, r = some sig →
      ∃ c ∈ g.sharedNeighbors a b, sig = [a, b, c].mergeSort (· ≤ ·) ∧
        t.minPair ≤ (s.carriers (sig.map cands.tagAt)).length := by
  unfold triadFor
  refine foldlM_ok_of_invariant _ _ (by simp) fun found hfound c hc => ?_
  obtain ⟨nb, hnb, rfl⟩ := NeighborGraph.exists_of_mem_sharedNeighbors hc
  have hsig : ∀ x ∈ [a, b, nb.tag].mergeSort (· ≤ ·), x < cands.size := by
    intro x hx
    simp only [List.mem_mergeSort, List.mem_cons, List.not_mem_nil, or_false] at hx
    rcases hx with rfl | rfl | rfl
    · exact ha
    · exact hb
    · exact hg a nb hnb
  have hne : [a, b, nb.tag].mergeSort (· ≤ ·) ≠ [] :=
    List.ne_nil_of_mem (List.mem_mergeSort.2 List.mem_cons_self)
  dsimp only
  split
  · exact ⟨_, rfl, hfound⟩
  · split
    · exact ⟨none, rfl, by simp⟩
    · rw [intersectionLen_eq, intersection_eq hs hne hsig]
      refine ⟨_, rfl, fun sig hsig' => ?_⟩
      split_ifs at hsig' with hpair
      cases hsig'
      exact ⟨nb.tag, hc, rfl, hpair⟩

/-- The triads add, to a good cover, triads only. -/
theorem triads_good (hsize : g.size = cands.size) (hloop : ∀ x, ∀ nb ∈ g.neighbors x, nb.tag ≠ x)
    (t : Tuning) {P : List Nat → Prop} (hP : ∀ ts, IsTriad s cands g t ts → P ts) {cover : Cover}
    (hc : cover.Good cands.size t P) :
    ∃ c, triads s cands g t cover = .ok c ∧ c.Good cands.size t P := by
  unfold triads
  refine foldlM_ok_of_invariant _ _ hc fun cover hcover e he => ?_
  obtain ⟨a, b, _, _⟩ := e
  obtain ⟨x, hx, nb, hnb, rfl, rfl⟩ := NeighborGraph.mem_triadEdges_scan t _ he
  have hnb' := List.mem_of_mem_take hnb
  have hx' : x < cands.size := hsize ▸ hx
  have hy := hg x nb hnb'
  have hxy := hloop x nb hnb'
  dsimp only
  split
  · exact ⟨cover, rfl, hcover⟩
  · obtain ⟨r, hr, hfound⟩ := triadFor_found hs hg t cover (a := min x nb.tag) (b := max x nb.tag)
      (by omega) (by omega)
    rw [hr]
    cases r with
    | none => exact ⟨cover, rfl, hcover⟩
    | some sig =>
      obtain ⟨c, hc, rfl, hpair⟩ := hfound sig rfl
      have hmem : ∀ y, y ∈ [min x nb.tag, max x nb.tag, c].mergeSort (· ≤ ·) ↔
          y = min x nb.tag ∨ y = max x nb.tag ∨ y = c := by
        intro y
        simp only [List.mem_mergeSort, List.mem_cons, List.not_mem_nil, or_false]
      refine ⟨_, rfl, hcover.push (fun y hy => ?_) fun _ => hP _ (isTriad_of_mem_iff t hnb hxy hc
        (fun y => mem_collapse_mergeSort.trans (hmem y)) ?_)⟩
      · rcases (hmem y).1 hy with rfl | rfl | rfl
        · omega
        · omega
        · obtain ⟨nb', hnb'', rfl⟩ := List.mem_map.1 (NeighborGraph.mem_sharedNeighbors hc).1
          exact hg _ nb' hnb''
      · -- the cover sorts the signature again and drops repeats: the same three tags
        refine hpair.trans_eq (congrArg List.length (s.carriers_congr fun tg => ?_))
        simp only [List.mem_map, mem_collapse_mergeSort]

end Triads

section Assembly

variable {s : Snapshot} {cands : CandidateSet}

/-- The sector a tag set becomes: the tag ids of its candidates with the items carrying all of
them, or nothing when no item does. -/
def sectorOf (s : Snapshot) (cands : CandidateSet) (ts : List Nat) : Option PlannedSector :=
  if (s.carriers (ts.map cands.tagAt)).isEmpty then none
  else some ⟨ts.map cands.tagAt, s.carriers (ts.map cands.tagAt)⟩

theorem mapM_fetch_tag {ts : List Nat} (h : ∀ i ∈ ts, i < cands.size) :
    ts.mapM (fun i => (·.tag) <$> cands.fetch i) = .ok (ts.map cands.tagAt) := by
  induction ts with
  | nil => rfl
  | cons i rest ih =>
    have hi := h i List.mem_cons_self
    rw [List.mapM_cons, CandidateSet.fetch_of_lt hi, ih fun j hj => h j (List.mem_cons_of_mem _ hj),
      List.map_cons, CandidateSet.tagAt_of_lt hi]
    rfl

/-- Mapping with a step that succeeds as a function does gives that function's map. -/
theorem mapM_eq_ok_map {ε α β : Type} {f : α → Except ε β} {g : α → β} {L : List α}
    (h : ∀ a ∈ L, f a = .ok (g a)) : L.mapM f = .ok (L.map g) := by
  induction L with
  | nil => rfl
  | cons a rest ih =>
    rw [List.mapM_cons, h a List.mem_cons_self, ih fun b hb => h b (List.mem_cons_of_mem _ hb)]
    rfl

/-- Once the cover is found, the sectors are those of its tag sets that some item carries. -/
theorem overlapSectors_eq (hs : s.Valid) {g : NeighborGraph} {t : Tuning} {comps : List Component}
    {cover : Cover} {P : List Nat → Prop}
    (hcover : triads s cands g t (macroCores g t cands.size comps {}) = .ok cover)
    (hgood : cover.Good cands.size t P) :
    overlapSectors s cands g t comps = .ok (cover.tagsets.filterMap (sectorOf s cands)) := by
  unfold overlapSectors
  dsimp only
  rw [hcover]
  simp only [bind, Except.bind]
  rw [mapM_eq_ok_map (g := sectorOf s cands) fun ts hts => ?_]
  · simp only [pure, Except.pure, List.reduceOption, List.filterMap_map]
    rfl
  have hne : ts ≠ [] := List.ne_nil_of_length_pos (by have := hgood.two_le ts hts; omega)
  rw [intersection_eq hs hne (hgood.lt ts hts)]
  simp only [sectorOf]
  split
  · rfl
  · rw [mapM_fetch_tag (hgood.lt ts hts)]
    rfl

theorem sectorOf_eq_some {ts : List Nat} {sec : PlannedSector} (h : sectorOf s cands ts = some sec) :
    sec.tags = ts.map cands.tagAt ∧ sec.items = s.carriers (ts.map cands.tagAt) ∧ sec.items ≠ [] := by
  unfold sectorOf at h
  split at h
  · cases h
  · rename_i hne
    cases h
    exact ⟨rfl, rfl, by simpa using hne⟩

/-- Over distinct candidates, two tag sets of candidates showing the same tag ids hold the same
dense indices. -/
theorem mem_iff_of_toFinset_eq (hc : cands.Distinct) {ts ts' : List Nat}
    (hts : ∀ i ∈ ts, i < cands.size) (hts' : ∀ i ∈ ts', i < cands.size)
    (h : (ts.map cands.tagAt).toFinset = (ts'.map cands.tagAt).toFinset) (x : Nat) :
    x ∈ ts ↔ x ∈ ts' := by
  have key : ∀ {l l' : List Nat}, (∀ i ∈ l, i < cands.size) → (∀ i ∈ l', i < cands.size) →
      (l.map cands.tagAt).toFinset = (l'.map cands.tagAt).toFinset → x ∈ l → x ∈ l' := by
    intro l l' hl hl' heq hx
    have hmem : cands.tagAt x ∈ (l'.map cands.tagAt).toFinset := by
      rw [← heq, List.mem_toFinset]
      exact List.mem_map_of_mem hx
    obtain ⟨y, hy, hxy⟩ := List.mem_map.1 (List.mem_toFinset.1 hmem)
    rwa [CandidateSet.tagAt_injective hc (hl' y hy) (hl x hx) hxy] at hy
  exact ⟨key hts hts' h, key hts' hts h.symm⟩

end Assembly

/-- What the overlapping sectors promise, over a snapshot, candidates, a graph, thresholds and
components. -/
structure OverlapSpec (s : Snapshot) (cands : CandidateSet) (g : NeighborGraph) (t : Tuning)
    (comps : List Component) (sectors : List PlannedSector) : Prop where
  /-- Each sector shows two or more candidates in strictly ascending dense index, and they make a
  macro core or a triad. -/
  tags : ∀ sec ∈ sectors, ∃ idx : List Nat, idx.Pairwise (· < ·) ∧ 2 ≤ idx.length ∧
    (∀ i ∈ idx, i < cands.size) ∧ sec.tags = idx.map cands.tagAt ∧
    (IsMacroCore t cands.size comps idx ∨ IsTriad s cands g t idx)
  tags_nodup : ∀ sec ∈ sectors, sec.tags.Nodup
  /-- Each sector holds, ascending, exactly the items carrying all its tags, and some item. -/
  items_sorted : ∀ sec ∈ sectors, sec.items.Pairwise (· < ·)
  mem_items : ∀ sec ∈ sectors, ∀ i, i ∈ sec.items ↔ ∀ tg ∈ sec.tags, tg ∈ s.tagsOf i
  items_ne_nil : ∀ sec ∈ sectors, sec.items ≠ []
  /-- No two sectors show one tag set, and there are no more than the total. -/
  distinct : (sectors.map fun sec => sec.tags.toFinset).Nodup
  length_le : sectors.length ≤ t.maxSetsTotal

section Spec

variable {s : Snapshot} {cands : CandidateSet} {g : NeighborGraph} {t : Tuning}
  {comps : List Component}

/-- The sectors of a good cover of macro cores and triads keep the promise. -/
theorem overlapSpec_filterMap (hs : s.Valid) (hc : cands.Distinct) {cover : Cover}
    (hgood : cover.Good cands.size t fun ts => IsMacroCore t cands.size comps ts ∨ IsTriad s cands g t ts) :
    OverlapSpec s cands g t comps (cover.tagsets.filterMap (sectorOf s cands)) := by
  have hsec : ∀ sec ∈ cover.tagsets.filterMap (sectorOf s cands), ∃ ts ∈ cover.tagsets,
      sec.tags = ts.map cands.tagAt ∧ sec.items = s.carriers (ts.map cands.tagAt) ∧ sec.items ≠ [] :=
    fun sec h => by
      obtain ⟨ts, hts, hsome⟩ := List.mem_filterMap.1 h
      exact ⟨ts, hts, sectorOf_eq_some hsome⟩
  refine ⟨fun sec h => ?_, fun sec h => ?_, fun sec h => ?_, fun sec h i => ?_, fun sec h => ?_, ?_, ?_⟩
  · obtain ⟨ts, hts, htags, -⟩ := hsec sec h
    exact ⟨ts, hgood.sorted ts hts, hgood.two_le ts hts, hgood.lt ts hts, htags, hgood.origin ts hts⟩
  · obtain ⟨ts, hts, htags, -⟩ := hsec sec h
    rw [htags]
    exact (hgood.sorted ts hts).nodup.map_on fun x hx y hy hxy =>
      CandidateSet.tagAt_injective hc (hgood.lt ts hts x hx) (hgood.lt ts hts y hy) hxy
  · obtain ⟨ts, hts, -, hitems, -⟩ := hsec sec h
    rw [hitems]
    exact hs.carriers_sorted _
  · obtain ⟨ts, hts, htags, hitems, -⟩ := hsec sec h
    have hne : ts.map cands.tagAt ≠ [] := by
      simpa using List.ne_nil_of_length_pos (by have := hgood.two_le ts hts; omega)
    rw [hitems, htags, hs.mem_carriers hne]
  · obtain ⟨ts, -, -, -, hne⟩ := hsec sec h
    exact hne
  · -- different tag sets of candidates show different tag ids
    rw [List.map_filterMap]
    refine List.Pairwise.filterMap _ ?_ (List.Pairwise.and_mem.1 hgood.nodup)
    rintro ts ts' ⟨hts, hts', hne⟩ b hb b' hb' heq
    refine hne ?_
    obtain ⟨sec, hsome, rfl⟩ := Option.map_eq_some_iff.1 hb
    obtain ⟨sec', hsome', rfl⟩ := Option.map_eq_some_iff.1 hb'
    rw [(sectorOf_eq_some hsome).1, (sectorOf_eq_some hsome').1] at heq
    exact List.Pairwise.eq_of_mem_iff (hgood.sorted ts hts) (hgood.sorted ts' hts')
      (mem_iff_of_toFinset_eq hc (hgood.lt ts hts) (hgood.lt ts' hts') heq)
  · exact (List.length_filterMap_le _ _).trans hgood.length_le

/-- Over a snapshot built from rows, distinct candidates, a graph built on them, any thresholds
and components whose members are sorted candidates, the overlapping sectors are found, and each
shows two or more distinct candidates in ascending dense index, with exactly the items carrying
all of them; no two show one tag set, there are no more than the total, and each is a macro core
or a triad. -/
theorem overlapSectors_spec (rows : List Application) (cands : CandidateSet) (hc : cands.Distinct)
    (edges : List Edge) (k : Nat) (t : Tuning) (comps : List Component)
    (hsorted : ∀ C ∈ comps, C.members.Pairwise (· ≤ ·))
    (hlt : ∀ C ∈ comps, ∀ j ∈ C.members, j < cands.size) :
    ∃ sectors, overlapSectors (Snapshot.ofApplications rows) cands
        (NeighborGraph.build cands.size edges k) t comps = .ok sectors ∧
      OverlapSpec (Snapshot.ofApplications rows) cands (NeighborGraph.build cands.size edges k) t
        comps sectors := by
  have hs := Snapshot.valid_ofApplications rows
  set s := Snapshot.ofApplications rows
  set g := NeighborGraph.build cands.size edges k
  have hg : ∀ x, ∀ nb ∈ g.neighbors x, nb.tag < cands.size :=
    fun _ _ hnb => (NeighborGraph.mem_neighbors_build hnb).1
  have hloop : ∀ x, ∀ nb ∈ g.neighbors x, nb.tag ≠ x :=
    fun _ _ hnb => (NeighborGraph.mem_neighbors_build hnb).2
  have hmacro : (macroCores g t cands.size comps {}).Good cands.size t
      (fun ts => IsMacroCore t cands.size comps ts ∨ IsTriad s cands g t ts) :=
    macroCores_good g t hsorted hlt (fun _ h => Or.inl h) Cover.good_empty
  obtain ⟨cover, hcover, hgood⟩ := triads_good hs hg (NeighborGraph.size_build edges k) hloop t
    (fun _ h => Or.inr h) hmacro
  exact ⟨_, overlapSectors_eq hs hcover hgood, overlapSpec_filterMap hs hc hgood⟩

/-- Two tags on one item and one component of both. -/
theorem overlapSectors_spec_one_component :
    (⟨#[⟨10, 1⟩, ⟨20, 1⟩]⟩ : CandidateSet).Distinct ∧
      (∀ C ∈ [(⟨[0, 1], 2⟩ : Component)], C.members.Pairwise (· ≤ ·)) ∧
      (∀ C ∈ [(⟨[0, 1], 2⟩ : Component)], ∀ j ∈ C.members, j < 2) ∧
      ∃ sectors, overlapSectors (Snapshot.ofApplications [.prediction 1 10, .prediction 1 20])
          ⟨#[⟨10, 1⟩, ⟨20, 1⟩]⟩ (NeighborGraph.build 2 [] 11) (Tuning.derive 0.5 {})
          [⟨[0, 1], 2⟩] = .ok sectors ∧
        OverlapSpec (Snapshot.ofApplications [.prediction 1 10, .prediction 1 20])
          ⟨#[⟨10, 1⟩, ⟨20, 1⟩]⟩ (NeighborGraph.build 2 [] 11) (Tuning.derive 0.5 {})
          [⟨[0, 1], 2⟩] sectors := by
  have hc : (⟨#[⟨10, 1⟩, ⟨20, 1⟩]⟩ : CandidateSet).Distinct := by
    unfold CandidateSet.Distinct
    decide
  have hsorted : ∀ C ∈ [(⟨[0, 1], 2⟩ : Component)], C.members.Pairwise (· ≤ ·) := by
    simp only [List.mem_singleton, forall_eq]
    decide
  have hlt : ∀ C ∈ [(⟨[0, 1], 2⟩ : Component)], ∀ j ∈ C.members, j < 2 := by
    simp only [List.mem_singleton, forall_eq]
    decide
  exact ⟨hc, hsorted, hlt, overlapSectors_spec _ _ hc [] 11 _ _ hsorted hlt⟩

/-- A component may not name an index past the candidates: with a member at 5 beside one
candidate, the seed's macro core takes it, and reading its tag fails. The thresholds are those
derived at consolidation one half. -/
theorem overlap_member_past_candidates :
    (⟨#[⟨10, 1⟩]⟩ : CandidateSet).Distinct ∧ [0, 5].Pairwise (· ≤ ·) ∧
      overlapSectors (Snapshot.ofApplications [.prediction 1 10]) ⟨#[⟨10, 1⟩]⟩
          (NeighborGraph.build 1 [] 11)
          { consolidation := 0.5, minSupport := 9, minPair := 6, edgeThreshold := 0.2, k := 11,
            maxSets := 36, maxSetSize := 9, maxSetsSingle := 63, maxSeedCores := 16,
            macroSize := 5, maxSetsTotal := 160, triadScan := 9 }
          [⟨[0, 5], 1⟩] = .error ⟨1, 5⟩ := by
  have hc : (⟨[0, 5], 1⟩ : Component).contains 0 = true :=
    (Component.contains_iff (by decide)).2 (by decide)
  have hsort : [0, 5].mergeSort (fun x y : Nat => decide (x ≤ y)) = [0, 5] :=
    List.mergeSort_of_pairwise (by decide)
  obtain ⟨set, hset⟩ := Option.isSome_iff_exists.1
    (show ((Snapshot.ofApplications [.prediction 1 10]).holders 10).isSome = true by decide)
  refine ⟨by unfold CandidateSet.Distinct; decide, by decide, ?_⟩
  -- the core of seed 0 is [0, 5]; no edge makes a triad, and the core's items read index 5
  simp [overlapSectors, macroCores, macroCore, hc, NeighborGraph.neighbors_build,
    NeighborGraph.incident, Cover.push, Cover.isFull, triads, triadEdges, NeighborGraph.size_build,
    CandidateSet.size, hsort, collapse, intersection, itemSets, CandidateSet.fetch, hset, bind,
    Except.bind, pure, Except.pure, List.mapM_cons, Functor.map, Except.map]

end Spec

end TagAtlas
