import TagAtlas.Proofs.Canonical
import TagAtlas.Proofs.SlotTable
import TagAtlas.Plan.Sectors
/-! The shape of a snapshot. A snapshot built from rows holds the counted (item, tag) pairs in
both its tables: an item's tags are the tags paired with it, ascending and each once, and a
tag's set holds the items paired with it. Where the tables put their keys depends on the order
of the rows; what a reader of the snapshot gets does not. Two valid snapshots that give every
item the same tags list the same items, count the same supports and rank the same tags. -/
namespace TagAtlas

open SlotTable

/-- The (item, tag) pairs of the rows that count as membership. -/
def countedPairs (rows : List Application) : List (Int × Int) :=
  (rows.filter Application.counts).map fun r => (r.item, r.tag)

namespace Snapshot

section Building

/-- What a snapshot being built holds after taking in the pairs of a relation: tables that
work, each tag's set holding the items related to it, and each item's tags, once each, the
tags related to it. -/
structure Holding (s : Snapshot) (R : Int → Int → Prop) : Prop where
  items_wf : WF hashId s.itemTable
  tags_wf : WF hashId s.tagTable
  holders_wf : ∀ t set, s.holders t = some set → WF hashId set
  mem_holders : ∀ t set i, s.holders t = some set → (i ∈ set.keys ↔ R i t)
  holders_isSome : ∀ t, (s.holders t).isSome ↔ ∃ i, R i t
  tags_nodup : ∀ i ts, s.itemTable.get? i (hashId i) = some ts → ts.Nodup
  mem_tags : ∀ i t, t ∈ (s.itemTable.get? i (hashId i)).getD [] ↔ R i t
  tags_isSome : ∀ i, (s.itemTable.get? i (hashId i)).isSome ↔ ∃ t, R i t

theorem holding_empty : Holding {} fun _ _ => False where
  items_wf := wf_empty
  tags_wf := wf_empty
  holders_wf t set h := by simp [holders] at h
  mem_holders t set i h := by simp [holders] at h
  holders_isSome t := by simp [holders]
  tags_nodup i ts h := by simp at h
  mem_tags i t := by simp
  tags_isSome i := by simp

variable {s : Snapshot} {R : Int → Int → Prop}

theorem Holding.congr {R' : Int → Int → Prop} (h : Holding s R) (hR : ∀ i t, R i t ↔ R' i t) :
    Holding s R' where
  items_wf := h.items_wf
  tags_wf := h.tags_wf
  holders_wf := h.holders_wf
  mem_holders t set i hs := (h.mem_holders t set i hs).trans (hR i t)
  holders_isSome t := (h.holders_isSome t).trans (exists_congr fun i => hR i t)
  tags_nodup := h.tags_nodup
  mem_tags i t := (h.mem_tags i t).trans (hR i t)
  tags_isSome i := (h.tags_isSome i).trans (exists_congr fun t => hR i t)

theorem Holding.wf_holders_getD (h : Holding s R) (t : Int) : WF hashId ((s.holders t).getD {}) := by
  cases hs : s.holders t with
  | none => exact wf_empty
  | some set => exact h.holders_wf t set hs

theorem Holding.not_rel_of_holders_eq_none (h : Holding s R) {t : Int} (hs : s.holders t = none)
    (i : Int) : ¬R i t :=
  fun hr => by simpa [hs] using (h.holders_isSome t).2 ⟨i, hr⟩

theorem Holding.mem_holders_getD (h : Holding s R) (t i : Int) :
    i ∈ ((s.holders t).getD {}).keys ↔ R i t := by
  cases hs : s.holders t with
  | none =>
    simp only [Option.getD_none, keys_empty, List.not_mem_nil, false_iff]
    exact h.not_rel_of_holders_eq_none hs i
  | some set => exact h.mem_holders t set i hs

theorem tagTable_addRow (i t : Int) :
    (s.addRow i t).tagTable =
      s.tagTable.upsert t (hashId t) fun set => (set.getD {}).insert i (hashId i) () := by
  unfold addRow
  dsimp only
  split <;> rfl

theorem holders_addRow (hw : WF hashId s.tagTable) (i t t' : Int) :
    (s.addRow i t).holders t' =
      if t' == t then some (((s.holders t).getD {}).insert i (hashId i) ()) else s.holders t' := by
  simp only [holders, tagTable_addRow, hw.get?_upsert]

theorem itemTable_addRow_of_contains {i t : Int}
    (hc : ((s.holders t).getD {}).contains i (hashId i) = true) :
    (s.addRow i t).itemTable = s.itemTable := by
  unfold addRow
  simp only [holders] at hc
  simp [hc]

theorem itemTable_addRow_of_not_contains {i t : Int}
    (hc : ((s.holders t).getD {}).contains i (hashId i) = false) :
    (s.addRow i t).itemTable = s.itemTable.upsert i (hashId i) fun tags => tags.getD [] ++ [t] := by
  unfold addRow
  simp only [holders] at hc
  simp [hc]

/-- Taking in a row keeps the tag side: the row's tag has a set, and the row's item is in it. -/
theorem Holding.addRow_tags (h : Holding s R) (i t : Int) :
    WF hashId (s.addRow i t).tagTable ∧
      (∀ t' set, (s.addRow i t).holders t' = some set → WF hashId set) ∧
      (∀ t' set i', (s.addRow i t).holders t' = some set →
        (i' ∈ set.keys ↔ R i' t' ∨ i' = i ∧ t' = t)) ∧
      ∀ t', ((s.addRow i t).holders t').isSome ↔ ∃ i', R i' t' ∨ i' = i ∧ t' = t := by
  have hold := h.wf_holders_getD t
  refine ⟨tagTable_addRow (s := s) i t ▸ h.tags_wf.upsert t _, fun t' set hs => ?_,
    fun t' set i' hs => ?_, fun t' => ?_⟩
  · rw [holders_addRow h.tags_wf] at hs
    split_ifs at hs
    · exact Option.some.inj hs ▸ hold.insert i ()
    · exact h.holders_wf t' set hs
  · rw [holders_addRow h.tags_wf] at hs
    split_ifs at hs with htt
    · obtain rfl := beq_iff_eq.1 htt
      rw [← Option.some.inj hs, hold.mem_keys_insert, h.mem_holders_getD]
      simp [or_comm]
    · rw [h.mem_holders t' set i' hs]
      simp_all
  · rw [holders_addRow h.tags_wf]
    split_ifs with htt
    · obtain rfl := beq_iff_eq.1 htt
      simp
    · rw [h.holders_isSome t']
      simp_all

/-- One row taken in: the relation gains the row's pair. -/
theorem Holding.addRow (h : Holding s R) (i t : Int) :
    Holding (s.addRow i t) fun i' t' => R i' t' ∨ i' = i ∧ t' = t := by
  obtain ⟨htags, hwf, hmem, hsome⟩ := h.addRow_tags i t
  have hcontains : ((s.holders t).getD {}).contains i (hashId i) = true ↔ R i t := by
    rw [(h.wf_holders_getD t).contains_iff, h.mem_holders_getD]
  by_cases hr : R i t
  · -- the pair was in already: the item side is unchanged
    have hsame : ∀ i' t', R i' t' ↔ R i' t' ∨ i' = i ∧ t' = t := fun i' t' =>
      ⟨Or.inl, fun h' => h'.elim id fun ⟨hi, ht⟩ => hi ▸ ht ▸ hr⟩
    have hitems := itemTable_addRow_of_contains (hcontains.2 hr)
    exact ⟨hitems ▸ h.items_wf, htags, hwf, hmem, hsome,
      fun i' ts hts => h.tags_nodup i' ts (hitems ▸ hts),
      fun i' t' => hitems ▸ (h.mem_tags i' t').trans (hsame i' t'),
      fun i' => hitems ▸ (h.tags_isSome i').trans (exists_congr fun t' => hsame i' t')⟩
  · have hitems := itemTable_addRow_of_not_contains (Bool.eq_false_iff.2 (mt hcontains.1 hr))
    have hget : ∀ i', (s.addRow i t).itemTable.get? i' (hashId i') =
        if i' == i then some ((s.itemTable.get? i (hashId i)).getD [] ++ [t])
        else s.itemTable.get? i' (hashId i') := fun i' => by
      rw [hitems, h.items_wf.get?_upsert]
    have hold : ((s.itemTable.get? i (hashId i)).getD []).Nodup := by
      cases hs : s.itemTable.get? i (hashId i) with
      | none => exact List.nodup_nil
      | some ts => exact h.tags_nodup i ts hs
    refine ⟨hitems ▸ h.items_wf.upsert i _, htags, hwf, hmem, hsome, fun i' ts hts => ?_,
      fun i' t' => ?_, fun i' => ?_⟩
    · rw [hget] at hts
      split_ifs at hts with hii
      · rw [← Option.some.inj hts]
        exact List.nodup_append.2 ⟨hold, List.nodup_singleton t, fun a ha b hb hab => by
          rw [List.mem_singleton.1 hb] at hab
          exact hr ((h.mem_tags i t).1 (hab ▸ ha))⟩
      · exact h.tags_nodup i' ts hts
    · rw [hget]
      split_ifs with hii
      · obtain rfl := beq_iff_eq.1 hii
        rw [Option.getD_some, List.mem_append, h.mem_tags, List.mem_singleton]
        simp
      · rw [h.mem_tags]
        simp_all
    · rw [hget]
      split_ifs with hii
      · obtain rfl := beq_iff_eq.1 hii
        simp
      · rw [h.tags_isSome]
        simp_all

/-- Taking in rows in order: the relation gains their counted pairs. -/
theorem Holding.foldl (h : Holding s R) (rows : List Application) :
    Holding ((rows.filter Application.counts).foldl
        (fun (s : Snapshot) (r : Application) => s.addRow r.item r.tag) s)
      fun i t => R i t ∨ (i, t) ∈ countedPairs rows := by
  induction rows generalizing s R with
  | nil => exact h.congr fun i t => by simp [countedPairs]
  | cons r rows ih =>
    by_cases hc : r.counts = true
    · rw [List.filter_cons_of_pos hc, List.foldl_cons]
      refine (ih (h.addRow r.item r.tag)).congr fun i t => ?_
      simp only [countedPairs, List.filter_cons_of_pos hc, List.map_cons, List.mem_cons,
        Prod.mk.injEq]
      tauto
    · rw [List.filter_cons_of_neg hc]
      refine (ih h).congr fun i t => ?_
      simp only [countedPairs, List.filter_cons_of_neg hc]

end Building

/-- The shape every snapshot built from rows has: tables that work, each tag's set non-empty,
each item's tags ascending and non-empty, and the two tables agreeing on every pair. -/
structure Valid (s : Snapshot) : Prop where
  items_wf : WF hashId s.itemTable
  tags_wf : WF hashId s.tagTable
  holders_wf : ∀ t set, s.holders t = some set → WF hashId set
  holders_nonempty : ∀ t set, s.holders t = some set → set.keys ≠ []
  tags_sorted : ∀ i, (s.tagsOf i).Pairwise (· < ·)
  tags_nonempty : ∀ i, i ∈ s.itemTable.keys → s.tagsOf i ≠ []
  agree : ∀ i t, t ∈ s.tagsOf i ↔ i ∈ (s.itemsWith t).getD []

section Finish

variable {b : Snapshot} {R : Int → Int → Prop}

theorem Holding.tagsOf_sort (h : Holding b R) (i : Int) :
    ({ b with itemTable := b.itemTable.mapValues fun tags => tags.mergeSort (· ≤ ·) } : Snapshot).tagsOf i =
      ((b.itemTable.get? i (hashId i)).getD []).mergeSort (· ≤ ·) := by
  simp only [tagsOf, h.items_wf.get?_mapValues]
  cases b.itemTable.get? i (hashId i) <;> simp

theorem Holding.mem_tagsOf_sort (h : Holding b R) (i t : Int) :
    t ∈ ({ b with itemTable := b.itemTable.mapValues fun tags => tags.mergeSort (· ≤ ·) } : Snapshot).tagsOf i ↔
      R i t := by
  rw [h.tagsOf_sort, List.mem_mergeSort, h.mem_tags]

/-- Sorting each item's tags finishes a built snapshot into a valid one. -/
theorem Holding.valid_sort (h : Holding b R) :
    ({ b with itemTable := b.itemTable.mapValues fun tags => tags.mergeSort (· ≤ ·) } : Snapshot).Valid where
  items_wf := h.items_wf.mapValues fun tags => tags.mergeSort (· ≤ ·)
  tags_wf := h.tags_wf
  holders_wf := h.holders_wf
  holders_nonempty t set hs := by
    have hs' : b.holders t = some set := hs
    obtain ⟨i, hi⟩ := (h.holders_isSome t).1 (by rw [hs']; rfl)
    exact List.ne_nil_of_mem ((h.mem_holders t set i hs').2 hi)
  tags_sorted i := by
    rw [h.tagsOf_sort]
    refine pairwise_lt_mergeSort ?_
    cases hs : b.itemTable.get? i (hashId i) with
    | none => exact List.nodup_nil
    | some ts => exact h.tags_nodup i ts hs
  tags_nonempty i hi := by
    change i ∈ (b.itemTable.mapValues _).keys at hi
    rw [keys_mapValues, ← h.items_wf.get?_isSome_iff, h.tags_isSome] at hi
    obtain ⟨t, ht⟩ := hi
    exact List.ne_nil_of_mem ((h.mem_tagsOf_sort i t).2 ht)
  agree i t := by
    rw [h.mem_tagsOf_sort]
    change R i t ↔ i ∈ ((b.holders t).map keys).getD []
    cases hs : b.holders t with
    | none =>
      simp only [Option.map_none, Option.getD_none, List.not_mem_nil, iff_false]
      exact h.not_rel_of_holders_eq_none hs i
    | some set => exact (h.mem_holders t set i hs).symm

end Finish

theorem exists_holding_ofApplications (rows : List Application) :
    ∃ b : Snapshot, Holding b (fun i t => (i, t) ∈ countedPairs rows) ∧
      ofApplications rows = { b with itemTable := b.itemTable.mapValues fun tags => tags.mergeSort (· ≤ ·) } :=
  ⟨_, (holding_empty.foldl rows).congr fun _ _ => (false_or _).to_iff, rfl⟩

theorem valid_ofApplications (rows : List Application) : (ofApplications rows).Valid := by
  obtain ⟨b, hb, heq⟩ := exists_holding_ofApplications rows
  rw [heq]
  exact hb.valid_sort

/-- A snapshot built from rows gives an item exactly the tags of its counted pairs. -/
theorem mem_tagsOf_ofApplications {rows : List Application} {i t : Int} :
    t ∈ (ofApplications rows).tagsOf i ↔ (i, t) ∈ countedPairs rows := by
  obtain ⟨b, hb, heq⟩ := exists_holding_ofApplications rows
  rw [heq]
  exact hb.mem_tagsOf_sort i t

section Readers

/-- The items of the item index are the item table's keys, ascending. -/
theorem itemTags_keys (s : Snapshot) : s.itemTags.map Prod.fst = s.itemTable.keys.mergeSort (· ≤ ·) := by
  rw [itemTags, List.map_map]
  exact List.map_id _

theorem mem_itemTags {s : Snapshot} {e : Int × List Int} :
    e ∈ s.itemTags ↔ e.1 ∈ s.itemTable.keys ∧ e.2 = s.tagsOf e.1 := by
  rw [itemTags, List.mem_map]
  constructor
  · rintro ⟨i, hi, rfl⟩
    exact ⟨List.mem_mergeSort.1 hi, rfl⟩
  · rintro ⟨hi, he⟩
    exact ⟨e.1, List.mem_mergeSort.2 hi, Prod.ext rfl he.symm⟩

theorem isEmpty_eq_totalItems (s : Snapshot) : s.isEmpty = (s.totalItems == 0) := rfl

theorem totalItems_eq_length_itemTags (s : Snapshot) : s.totalItems = s.itemTags.length := by
  rw [totalItems, itemTags, List.length_map, List.length_mergeSort]

theorem tagsOf_eq_of_mem_itemTags {s : Snapshot} {i : Int} {ts : List Int}
    (h : (i, ts) ∈ s.itemTags) : s.tagsOf i = ts :=
  (mem_itemTags.1 h).2.symm

theorem mem_supportRanking {s : Snapshot} {e : Int × Nat} :
    e ∈ s.supportRanking ↔ ∃ set, (e.1, set) ∈ s.tagTable.walk ∧ e.2 = set.size := by
  rw [supportRanking, List.mem_mergeSort, List.mem_map]
  constructor
  · rintro ⟨⟨t, set⟩, hmem, rfl⟩
    exact ⟨set, hmem, rfl⟩
  · rintro ⟨set, hmem, he⟩
    exact ⟨(e.1, set), hmem, Prod.ext rfl he.symm⟩

theorem supportRanking_keys_perm (s : Snapshot) :
    (s.supportRanking.map Prod.fst).Perm s.tagTable.keys := by
  rw [supportRanking, keys_eq_map_walk]
  exact ((List.mergeSort_perm _ _).map Prod.fst).trans (by rw [List.map_map]; rfl)

end Readers

/-- Ranking entries: larger support first, then the smaller tag id. -/
theorem totalOrder_rankLE : TotalOrder rankLE := by
  refine ⟨?_, ?_, ?_⟩ <;> simp only [rankLE, Bool.or_eq_true, Bool.and_eq_true,
    decide_eq_true_eq, beq_iff_eq, Prod.forall, Prod.mk.injEq] <;> omega

/-- A ranked list with the entries of the tag table's walk is the support ranking. -/
theorem supportRanking_eq_of_perm {s : Snapshot} {l : List (Int × Nat)}
    (hperm : (s.tagTable.walk.map fun e => (e.1, e.2.size)).Perm l)
    (hl : l.Pairwise fun a b => rankLE a b) : s.supportRanking = l :=
  ((List.mergeSort_perm _ _).trans hperm).eq_of_pairwise
    (fun a b _ _ => totalOrder_rankLE.antisymm a b)
    (List.pairwise_mergeSort totalOrder_rankLE.trans totalOrder_rankLE.total _) hl

namespace Valid

variable {s : Snapshot} (hs : s.Valid)
include hs

theorem mem_itemsWith {i t : Int} : i ∈ (s.itemsWith t).getD [] ↔ t ∈ s.tagsOf i :=
  (hs.agree i t).symm

theorem mem_itemKeys {i : Int} : i ∈ s.itemTable.keys ↔ s.tagsOf i ≠ [] := by
  refine ⟨hs.tags_nonempty i, fun hne => ?_⟩
  rw [← hs.items_wf.get?_isSome_iff]
  cases hget : s.itemTable.get? i (hashId i) with
  | none => exact absurd (by simp [tagsOf, hget]) hne
  | some ts => rfl

/-- An item with a tag is listed with its tags. -/
theorem mem_itemTags_of_mem_tagsOf {i t : Int} (h : t ∈ s.tagsOf i) : (i, s.tagsOf i) ∈ s.itemTags :=
  mem_itemTags.2 ⟨hs.mem_itemKeys.2 (List.ne_nil_of_mem h), rfl⟩

theorem items_sorted : (s.itemTags.map Prod.fst).Pairwise (· < ·) := by
  rw [itemTags_keys]
  exact pairwise_lt_mergeSort hs.items_wf.nodup

theorem item_keys_nodup : (s.itemTags.map Prod.fst).Nodup := hs.items_sorted.nodup

/-- An item is listed exactly when it carries some tag. -/
theorem mem_items {i : Int} : i ∈ s.itemTags.map Prod.fst ↔ ∃ t, t ∈ s.tagsOf i := by
  rw [itemTags_keys, List.mem_mergeSort, hs.mem_itemKeys]
  exact ⟨List.exists_mem_of_ne_nil _, fun ⟨_, ht⟩ => List.ne_nil_of_mem ht⟩

theorem tags_nonempty_of_mem {e : Int × List Int} (he : e ∈ s.itemTags) : e.2 ≠ [] := by
  obtain ⟨hi, he⟩ := mem_itemTags.1 he
  exact he ▸ hs.tags_nonempty e.1 hi

theorem itemsWith_nodup {t : Int} {items : List Int} (h : s.itemsWith t = some items) :
    items.Nodup := by
  obtain ⟨set, hset, rfl⟩ := Option.map_eq_some_iff.1 h
  exact (hs.holders_wf t set hset).nodup

theorem itemsWith_ne_nil {t : Int} {items : List Int} (h : s.itemsWith t = some items) :
    items ≠ [] := by
  obtain ⟨set, hset, rfl⟩ := Option.map_eq_some_iff.1 h
  exact hs.holders_nonempty t set hset

theorem holders_isSome_iff {t : Int} : (s.holders t).isSome ↔ ∃ i, t ∈ s.tagsOf i := by
  constructor
  · intro hsome
    obtain ⟨set, hset⟩ := Option.isSome_iff_exists.1 hsome
    obtain ⟨i, hi⟩ := List.exists_mem_of_ne_nil _ (hs.holders_nonempty t set hset)
    exact ⟨i, hs.mem_itemsWith.1 (by simp [itemsWith, hset, hi])⟩
  · rintro ⟨i, hi⟩
    have := hs.mem_itemsWith.2 hi
    cases hset : s.holders t with
    | none => simp [itemsWith, hset] at this
    | some set => rfl

/-- The support of a tag is the number of distinct items that carry it. -/
theorem support_eq_length (t : Int) : s.support t = ((s.itemsWith t).getD []).length := by
  unfold support itemsWith
  cases hset : s.holders t with
  | none => rfl
  | some set => exact (hs.holders_wf t set hset).size_eq_length_keys

theorem support_eq_card (t : Int) : s.support t = ((s.itemsWith t).getD []).toFinset.card := by
  rw [hs.support_eq_length]
  cases h : s.itemsWith t with
  | none => rfl
  | some items => rw [Option.getD_some, List.toFinset_card_of_nodup (hs.itemsWith_nodup h)]

theorem mem_supportRanking' {e : Int × Nat} :
    e ∈ s.supportRanking ↔ (s.holders e.1).isSome ∧ e.2 = s.support e.1 := by
  rw [mem_supportRanking]
  constructor
  · rintro ⟨set, hmem, he⟩
    have hget : s.holders e.1 = some set := hs.tags_wf.get?_eq_some_iff.2 hmem
    exact ⟨by rw [hget]; rfl, by rw [he, support, hget]; rfl⟩
  · rintro ⟨hsome, he⟩
    obtain ⟨set, hset⟩ := Option.isSome_iff_exists.1 hsome
    exact ⟨set, hs.tags_wf.get?_eq_some_iff.1 hset, by rw [he, support, hset]; rfl⟩

theorem support_of_mem_supportRanking {e : Int × Nat} (he : e ∈ s.supportRanking) :
    e.2 = s.support e.1 :=
  (hs.mem_supportRanking'.1 he).2

theorem supportRanking_keys_nodup : (s.supportRanking.map Prod.fst).Nodup :=
  (supportRanking_keys_perm s).nodup_iff.2 hs.tags_wf.nodup

theorem mem_supportRanking_keys {t : Int} :
    t ∈ s.supportRanking.map Prod.fst ↔ ∃ i, t ∈ s.tagsOf i := by
  rw [(supportRanking_keys_perm s).mem_iff, ← hs.tags_wf.get?_isSome_iff]
  exact hs.holders_isSome_iff

/-- The ranking is strictly ordered: support descending, then tag id ascending. -/
theorem supportRanking_sorted :
    s.supportRanking.Pairwise fun a b => b.2 < a.2 ∨ a.2 = b.2 ∧ a.1 < b.1 := by
  have hnodup : s.supportRanking.Nodup := hs.supportRanking_keys_nodup.of_map Prod.fst
  have hrank : s.supportRanking.Pairwise fun a b => rankLE a b :=
    List.pairwise_mergeSort totalOrder_rankLE.trans totalOrder_rankLE.total _
  refine (hrank.and hnodup).imp fun {a b} h => ?_
  obtain ⟨hle, hne⟩ := h
  obtain ⟨a₁, a₂⟩ := a
  obtain ⟨b₁, b₂⟩ := b
  simp only [rankLE, Bool.or_eq_true, Bool.and_eq_true, decide_eq_true_eq, beq_iff_eq] at hle
  simp only [ne_eq, Prod.mk.injEq] at hne
  omega

end Valid

section Same

variable {s s' : Snapshot} (hs : s.Valid) (hs' : s'.Valid) (hsame : ∀ i t, t ∈ s.tagsOf i ↔ t ∈ s'.tagsOf i)
include hs hs' hsame

/-- Valid snapshots that give every item the same tags give it the same sorted list. -/
theorem Valid.tagsOf_congr (i : Int) : s.tagsOf i = s'.tagsOf i :=
  List.Pairwise.eq_of_mem_iff (hs.tags_sorted i) (hs'.tags_sorted i) (hsame i)

theorem Valid.itemTags_congr : s.itemTags = s'.itemTags := by
  have hkeys : s.itemTags.map Prod.fst = s'.itemTags.map Prod.fst :=
    List.Pairwise.eq_of_mem_iff hs.items_sorted hs'.items_sorted fun i => by
      rw [hs.mem_items, hs'.mem_items]
      exact exists_congr fun t => hsame i t
  rw [itemTags, itemTags, ← itemTags_keys, ← itemTags_keys, hkeys]
  exact List.map_congr_left fun i _ => by rw [hs.tagsOf_congr hs' hsame]

theorem Valid.totalItems_congr : s.totalItems = s'.totalItems := by
  rw [totalItems_eq_length_itemTags, totalItems_eq_length_itemTags, hs.itemTags_congr hs' hsame]

theorem Valid.isEmpty_congr : s.isEmpty = s'.isEmpty := by
  rw [isEmpty_eq_totalItems, isEmpty_eq_totalItems, hs.totalItems_congr hs' hsame]

theorem Valid.holders_isSome_congr (t : Int) : (s.holders t).isSome = (s'.holders t).isSome := by
  rw [Bool.eq_iff_iff, hs.holders_isSome_iff, hs'.holders_isSome_iff]
  exact exists_congr fun i => hsame i t

theorem Valid.mem_itemsWith_congr (t i : Int) :
    i ∈ (s.itemsWith t).getD [] ↔ i ∈ (s'.itemsWith t).getD [] := by
  rw [hs.mem_itemsWith, hs'.mem_itemsWith, hsame]

theorem Valid.support_congr (t : Int) : s.support t = s'.support t := by
  rw [hs.support_eq_card, hs'.support_eq_card]
  congr 1
  ext i
  rw [List.mem_toFinset, List.mem_toFinset, hs.mem_itemsWith_congr hs' hsame]

/-- The support ranking depends only on which tags each item carries. -/
theorem Valid.supportRanking_congr : s.supportRanking = s'.supportRanking := by
  have hmem : ∀ e, e ∈ s.supportRanking ↔ e ∈ s'.supportRanking := fun e => by
    rw [hs.mem_supportRanking', hs'.mem_supportRanking', hs.holders_isSome_congr hs' hsame,
      hs.support_congr hs' hsame]
  refine ((List.perm_ext_iff_of_nodup (hs.supportRanking_keys_nodup.of_map Prod.fst)
    (hs'.supportRanking_keys_nodup.of_map Prod.fst)).2 hmem).eq_of_pairwise
    (fun a b _ _ hab hba => ?_) hs.supportRanking_sorted hs'.supportRanking_sorted
  exfalso
  omega

end Same

end Snapshot

end TagAtlas
