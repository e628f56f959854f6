import TagAtlas.Proofs.Snapshot
/-! Candidate indices and memberships. A dense index names the position of a candidate; the
memberships of a snapshot list, item by item in ascending order, the dense indices of the
candidate tags the item carries, ascending and each once. When the candidates have distinct tag
ids an index is found exactly for the tags of the candidates. -/
namespace TagAtlas

namespace CandidateSet

variable {c : CandidateSet}

/-- The dense indices of a list of tag ids, ascending and each once. -/
def denseIndices (c : CandidateSet) (tags : List Int) : List Nat :=
  collapse ((tags.filterMap c.indexOf).mergeSort (· ≤ ·))

/-- Whether the candidate tag ids are distinct. -/
def Distinct (c : CandidateSet) : Prop := (c.tags.toList.map Candidate.tag).Nodup

theorem fetch_of_lt {i : Nat} (h : i < c.size) : c.fetch i = .ok c.tags[i] := by
  simp [fetch, Array.getElem?_eq_getElem h]

theorem supportAt_of_lt {i : Nat} (h : i < c.size) : c.supportAt i = c.tags[i].support := by
  simp [supportAt, get?, Array.getElem?_eq_getElem h]

theorem tagAt_of_lt {i : Nat} (h : i < c.size) : c.tagAt i = c.tags[i].tag := by
  simp [tagAt, get?, Array.getElem?_eq_getElem h]

/-- The index of a tag id is the position of its last hit. -/
theorem indexOf_eq (t : Int) :
    c.indexOf t = (c.tags.toList.zipIdx.filter fun e => e.1.tag == t).getLast?.map Prod.snd := rfl

theorem indexOf_eq_some {t : Int} {j : Nat} (h : c.indexOf t = some j) :
    ∃ x, c.tags[j]? = some x ∧ x.tag = t := by
  rw [indexOf_eq] at h
  obtain ⟨e, he, rfl⟩ := Option.map_eq_some_iff.1 h
  have hmem := List.mem_of_getLast? he
  rw [List.mem_filter, List.mem_zipIdx_iff_getElem?, Array.getElem?_toList] at hmem
  exact ⟨e.1, hmem.1, by simpa using hmem.2⟩

theorem indexOf_lt_size {t : Int} {j : Nat} (h : c.indexOf t = some j) : j < c.size := by
  obtain ⟨x, hx, -⟩ := indexOf_eq_some h
  exact (Array.getElem?_eq_some_iff.1 hx).1

/-- With distinct tag ids, two positions holding one tag id are one position. -/
theorem eq_of_tag_eq (hc : c.Distinct) {a b : Nat} (ha : a < c.size) (hb : b < c.size)
    (h : c.tags[a].tag = c.tags[b].tag) : a = b := by
  have ha' : a < (c.tags.toList.map Candidate.tag).length := by simpa [size] using ha
  have hb' : b < (c.tags.toList.map Candidate.tag).length := by simpa [size] using hb
  have hl : (c.tags.toList.map Candidate.tag)[a] = (c.tags.toList.map Candidate.tag)[b] := by
    simp only [List.getElem_map, Array.getElem_toList]
    exact h
  exact (List.Nodup.getElem_inj_iff hc).1 hl

theorem tagAt_injective (hc : c.Distinct) {a b : Nat} (ha : a < c.size) (hb : b < c.size)
    (h : c.tagAt a = c.tagAt b) : a = b := by
  rw [tagAt_of_lt ha, tagAt_of_lt hb] at h
  exact eq_of_tag_eq hc ha hb h

/-- With distinct tag ids, the index of a candidate's tag id is its position. -/
theorem indexOf_eq_some_iff (hc : c.Distinct) {t : Int} {j : Nat} :
    c.indexOf t = some j ↔ ∃ x, c.tags[j]? = some x ∧ x.tag = t := by
  refine ⟨indexOf_eq_some, ?_⟩
  rintro ⟨x, hx, rfl⟩
  obtain ⟨hj, rfl⟩ := Array.getElem?_eq_some_iff.1 hx
  set hits := c.tags.toList.zipIdx.filter fun e => e.1.tag == c.tags[j].tag
  -- every hit is at position `j`, since no other position holds that tag id
  have hmem : ∀ e ∈ hits, e.2 = j := by
    rintro ⟨y, i⟩ he
    rw [List.mem_filter, List.mem_zipIdx_iff_getElem?, Array.getElem?_toList] at he
    dsimp only at he
    obtain ⟨hi, rfl⟩ := Array.getElem?_eq_some_iff.1 he.1
    exact eq_of_tag_eq hc hi hj (by simpa using he.2)
  have hxj : (c.tags[j], j) ∈ hits := by
    rw [List.mem_filter, List.mem_zipIdx_iff_getElem?, Array.getElem?_toList]
    exact ⟨hx, by simp⟩
  have hne : hits ≠ [] := List.ne_nil_of_mem hxj
  rw [indexOf_eq, List.getLast?_eq_some_getLast hne, Option.map_some, hmem _ (List.getLast_mem hne)]

theorem mem_denseIndices {tags : List Int} {j : Nat} :
    j ∈ c.denseIndices tags ↔ ∃ t ∈ tags, c.indexOf t = some j := by
  rw [denseIndices, mem_collapse_mergeSort, List.mem_filterMap]

theorem pairwise_denseIndices (tags : List Int) : (c.denseIndices tags).Pairwise (· < ·) :=
  (pairwise_collapse_mergeSort totalOrder_le _).imp fun h => by
    have := h.2
    simp only [decide_eq_true_eq] at h
    omega

theorem lt_size_of_mem_denseIndices {tags : List Int} {j : Nat} (h : j ∈ c.denseIndices tags) :
    j < c.size := by
  obtain ⟨_, -, ht⟩ := mem_denseIndices.1 h
  exact indexOf_lt_size ht

/-- Memberships keep the items with a candidate tag, each with its dense indices. -/
theorem memberships_eq (s : Snapshot) :
    c.memberships s = (s.itemTags.filter fun e => c.denseIndices e.2 ≠ []).map
      fun e => (e.1, c.denseIndices e.2) := by
  rw [memberships]
  induction s.itemTags with
  | nil => rfl
  | cons e rest ih =>
    obtain ⟨item, tags⟩ := e
    have hd : collapse ((tags.filterMap c.indexOf).mergeSort (· ≤ ·)) = c.denseIndices tags := rfl
    simp only [List.filterMap_cons, List.filter_cons, hd]
    cases h : c.denseIndices tags <;> simpa [h] using ih

theorem mem_memberships {s : Snapshot} {item : Int} {dense : List Nat} :
    (item, dense) ∈ c.memberships s ↔
      ∃ tags, (item, tags) ∈ s.itemTags ∧ dense = c.denseIndices tags ∧ dense ≠ [] := by
  rw [memberships_eq, List.mem_map]
  constructor
  · rintro ⟨⟨i, tags⟩, hmem, he⟩
    rw [List.mem_filter, decide_eq_true_eq] at hmem
    cases he
    exact ⟨tags, hmem.1, rfl, hmem.2⟩
  · rintro ⟨tags, hmem, rfl, hne⟩
    exact ⟨(item, tags), List.mem_filter.2 ⟨hmem, by simpa using hne⟩, rfl⟩

theorem lt_size_of_mem_memberships {s : Snapshot} {e : Int × List Nat} (he : e ∈ c.memberships s)
    {j : Nat} (hj : j ∈ e.2) : j < c.size := by
  obtain ⟨tags, -, hd, -⟩ := mem_memberships.1 he
  exact lt_size_of_mem_denseIndices (hd ▸ hj)

theorem pairwise_of_mem_memberships {s : Snapshot} {e : Int × List Nat}
    (he : e ∈ c.memberships s) : e.2.Pairwise (· < ·) := by
  obtain ⟨tags, -, hd, -⟩ := mem_memberships.1 he
  exact hd ▸ pairwise_denseIndices tags

/-- The memberships' items are a part of the snapshot's items, in the same order. -/
theorem memberships_items_sublist (s : Snapshot) :
    ((c.memberships s).map Prod.fst).Sublist (s.itemTags.map Prod.fst) := by
  rw [memberships_eq, List.map_map]
  exact List.filter_sublist.map _

/-- With distinct tag ids, a dense index of an item is the position of one of its tags. -/
theorem mem_denseIndices_iff (hc : c.Distinct) {s : Snapshot} {item : Int} {j : Nat} :
    j ∈ c.denseIndices (s.tagsOf item) ↔ ∃ x, c.tags[j]? = some x ∧ x.tag ∈ s.tagsOf item := by
  rw [mem_denseIndices]
  constructor
  · rintro ⟨t, ht, hj⟩
    obtain ⟨x, hx, rfl⟩ := indexOf_eq_some hj
    exact ⟨x, hx, ht⟩
  · rintro ⟨x, hx, ht⟩
    exact ⟨x.tag, ht, (indexOf_eq_some_iff hc).2 ⟨x, hx, rfl⟩⟩

/-- A dense index of an item names one of its tags. -/
theorem tagAt_mem_tagsOf {s : Snapshot} {item : Int} {dense : List Nat}
    (h : (item, dense) ∈ c.memberships s) {j : Nat} (hj : j ∈ dense) : c.tagAt j ∈ s.tagsOf item := by
  obtain ⟨tags, hmem, rfl, -⟩ := mem_memberships.1 h
  obtain ⟨t, ht, hidx⟩ := mem_denseIndices.1 hj
  obtain ⟨x, hx, rfl⟩ := indexOf_eq_some hidx
  rw [Snapshot.tagsOf_eq_of_mem_itemTags hmem]
  simpa [tagAt, get?, hx] using ht

variable {s : Snapshot} (hs : s.Valid)
include hs

/-- An item carrying a candidate's tag is listed, with that candidate's dense index. -/
theorem exists_mem_memberships (hc : c.Distinct) {item : Int} {j : Nat} (hj : j < c.size)
    (h : c.tagAt j ∈ s.tagsOf item) : ∃ dense, (item, dense) ∈ c.memberships s ∧ j ∈ dense := by
  have hdense : j ∈ c.denseIndices (s.tagsOf item) :=
    (mem_denseIndices_iff hc).2 ⟨c.tags[j], Array.getElem?_eq_getElem hj, tagAt_of_lt hj ▸ h⟩
  exact ⟨_, mem_memberships.2 ⟨_, hs.mem_itemTags_of_mem_tagsOf h, rfl, List.ne_nil_of_mem hdense⟩,
    hdense⟩

theorem memberships_items_sorted : ((c.memberships s).map Prod.fst).Pairwise (· < ·) :=
  hs.items_sorted.sublist (memberships_items_sublist s)

/-- The memberships of a snapshot: an item with a candidate tag is listed, once, with the
ascending list of the dense indices of its candidate tags. -/
theorem mem_memberships_iff (hc : c.Distinct) {item : Int} {dense : List Nat} :
    (item, dense) ∈ c.memberships s ↔ dense ≠ [] ∧ dense.Pairwise (· < ·) ∧
      ∀ j, j ∈ dense ↔ ∃ x, c.tags[j]? = some x ∧ x.tag ∈ s.tagsOf item := by
  rw [mem_memberships]
  constructor
  · rintro ⟨tags, hmem, rfl, hne⟩
    obtain rfl := Snapshot.tagsOf_eq_of_mem_itemTags hmem
    exact ⟨hne, pairwise_denseIndices _, fun j => mem_denseIndices_iff hc⟩
  · rintro ⟨hne, hsorted, hdense⟩
    obtain ⟨j, hj⟩ := List.exists_mem_of_ne_nil _ hne
    obtain ⟨x, -, hx⟩ := (hdense j).1 hj
    have heq : dense = c.denseIndices (s.tagsOf item) :=
      hsorted.eq_of_mem_iff (pairwise_denseIndices _) fun j =>
        (hdense j).trans (mem_denseIndices_iff hc).symm
    exact ⟨_, hs.mem_itemTags_of_mem_tagsOf hx, heq, hne⟩

end CandidateSet

/-- Selected candidates have distinct tag ids: they are taken from the support ranking. -/
theorem distinct_selectCandidates {s : Snapshot} (hs : s.Valid) (maxTags minSupport : Nat) :
    (selectCandidates s maxTags minSupport).Distinct := by
  unfold selectCandidates CandidateSet.Distinct
  split_ifs
  · simp
  · dsimp only
    rw [List.map_map]
    refine hs.supportRanking_keys_nodup.sublist (List.Sublist.map _ ?_)
    split
    · exact (List.take_sublist _ _).trans ((List.take_sublist _ _).trans (List.take_sublist _ _))
    · exact (List.take_sublist _ _).trans (List.filter_sublist.trans (List.take_sublist _ _))

end TagAtlas
