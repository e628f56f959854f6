import TagAtlas.Proofs.Assignment
import TagAtlas.Proofs.Memberships
import TagAtlas.Proofs.Reporting
import TagAtlas.Proofs.ServiceQuery
import TagAtlas.Plan.Sectors
/-! The tagsets view. Its sectors come from the first `3 · maxSets` components of the
partition: each component that receives items gives one sector, which shows the tags of its
first members and lists its items ascending. Components split the candidate indices and every
item goes to one component, so sectors share neither items nor tags; and when the components
that receive items fit in `maxSets`, no item carrying a tag of a kept component is lost. -/
namespace TagAtlas

namespace Stages

variable (st : Stages)

/-- The components a tagsets plan places items in: the first `3 · maxSets` of the partition. -/
def kept : List Component :=
  (partition st.candidates st.graph st.tuning).take (3 * st.tuning.maxSets)

/-- The kept components, each with the items placed in it. -/
def placed : List (Component × List Int) :=
  st.kept.zip (assignItems st.memberships st.kept st.candidates)

/-- The sector of a component with its items. -/
def toSector (e : Component × List Int) : PlannedSector :=
  ⟨displayTags st.candidates e.1.members st.tuning.maxSetSize, e.2.mergeSort (· ≤ ·)⟩

/-- The sectors of the tagsets view: the kept components that receive items, at most
`maxSets` of them. -/
def tagsetSectors : List PlannedSector :=
  ((st.placed.filter fun e => !e.2.isEmpty).take st.tuning.maxSets).map st.toSector

theorem tagsetSectors_of_size_eq_zero {st : Stages} (h : st.candidates.size = 0) :
    st.tagsetSectors = [] := by
  simp [tagsetSectors, placed, kept, partition, h]

theorem kept_sublist : st.kept.Sublist (partition st.candidates st.graph st.tuning) :=
  List.take_sublist _ _

variable {st}

theorem lt_size_of_mem_kept {C : Component} (hC : C ∈ st.kept) {j : Nat} (hj : j ∈ C.members) :
    j < st.candidates.size :=
  (splitsRange_partition _ _ _).lt_of_mem (st.kept_sublist.subset hC) hj

theorem sorted_of_mem_kept {C : Component} (hC : C ∈ st.kept) : C.members.Pairwise (· < ·) :=
  (splitsRange_partition _ _ _).sorted C (st.kept_sublist.subset hC)

theorem mem_placed {e : Component × List Int} :
    e ∈ st.placed ↔
      ∃ c, st.kept[c]? = some e.1 ∧ e.2 = placedIn st.memberships st.kept st.candidates c := by
  rw [placed, zip_assignItems, List.mem_map]
  constructor
  · rintro ⟨⟨C, c⟩, hmem, rfl⟩
    exact ⟨c, List.mem_zipIdx_iff_getElem?.1 hmem, rfl⟩
  · rintro ⟨c, hc, he⟩
    exact ⟨(e.1, c), List.mem_zipIdx_iff_getElem?.2 hc, Prod.ext rfl he.symm⟩

/-- Placed components share no member, and, with one membership per item, no item. -/
theorem pairwise_placed (hitems : (st.memberships.map Prod.fst).Nodup) :
    st.placed.Pairwise fun a b => a.1.members.Disjoint b.1.members ∧ a.2.Disjoint b.2 := by
  have hlen := length_assignItems st.memberships st.kept st.candidates
  have hfst : (st.placed.map Prod.fst).Pairwise fun x y => x.members.Disjoint y.members := by
    rw [placed, List.map_fst_zip hlen.ge]
    exact (splitsRange_partition _ _ _).pairwise_disjoint.sublist st.kept_sublist
  have hsnd : (st.placed.map Prod.snd).Pairwise List.Disjoint := by
    rw [placed, List.map_snd_zip hlen.le]
    exact pairwise_disjoint_assignItems hitems
  exact (List.pairwise_map.1 hfst).and (List.pairwise_map.1 hsnd)

theorem exists_of_mem_tagsetSectors {sec : PlannedSector} (hsec : sec ∈ st.tagsetSectors) :
    ∃ e ∈ st.placed, e.2 ≠ [] ∧ sec = st.toSector e := by
  obtain ⟨e, he, rfl⟩ := List.mem_map.1 hsec
  obtain ⟨hmem, hne⟩ := List.mem_filter.1 (List.mem_of_mem_take he)
  exact ⟨e, hmem, by simpa using hne, rfl⟩

/-- The kept components that receive items are as many as the non-empty item lists that
assignment returns. -/
theorem length_receiving :
    (st.placed.filter fun e => !e.2.isEmpty).length =
      (assignItems st.memberships st.kept st.candidates).countP (fun items => items ≠ []) := by
  rw [← List.countP_eq_length_filter, ← List.map_snd_zip
    (length_assignItems st.memberships st.kept st.candidates).le, List.countP_map]
  refine List.countP_congr fun e _ => ?_
  rcases e with ⟨_, _ | _⟩ <;> simp

/-- Sectors inherit any relation that holds between the components they come from. -/
theorem pairwise_tagsetSectors {R : PlannedSector → PlannedSector → Prop}
    (h : st.placed.Pairwise fun a b => R (st.toSector a) (st.toSector b)) :
    st.tagsetSectors.Pairwise R :=
  List.pairwise_map.2 ((h.filter _).sublist (List.take_sublist _ _))

end Stages

/-- The plan of the tagsets view is its sectors over the stages; at either end of the
consolidation the plan builds no graph, which the partition does not read there. -/
theorem sectors_planSectors (s : Snapshot) (p : Params) (hview : p.view = .tagsets) :
    (planSectors s p).sectors = (Stages.compute s p).tagsetSectors := by
  have hcustom : (ViewMode.tagsets == .custom) = false := rfl
  have hsingle : (ViewMode.tagsets == .single) = false := rfl
  have hoverlap : (ViewMode.tagsets == .overlap) = false := rfl
  have htagsets : (ViewMode.tagsets == .tagsets) = true := rfl
  unfold planSectors
  simp only [hview, hcustom, hsingle, hoverlap, htagsets, Bool.or_false, Bool.true_and,
    Bool.false_eq_true, if_false]
  split_ifs with hempty hzero hskip
  · refine (Stages.tagsetSectors_of_size_eq_zero ?_).symm
    simp [Stages.compute, selectCandidates, hempty, CandidateSet.size]
  · exact (Stages.tagsetSectors_of_size_eq_zero hzero).symm
  · simp only [Stages.tagsetSectors, Stages.placed, Stages.kept, Stages.compute]
    rw [partition_eq_of_forces hskip _ _ (NeighborGraph.build _ (edgesOf _ _ _ _) _)]
    rfl
  · rfl

/-- Shown tags of components that share no member share no tag. -/
theorem disjoint_displayTags {cands : CandidateSet} (hc : cands.Distinct) {xs ys : List Nat}
    (hxs : ∀ j ∈ xs, j < cands.size) (hys : ∀ j ∈ ys, j < cands.size) (h : xs.Disjoint ys)
    (k : Nat) : (displayTags cands xs k).Disjoint (displayTags cands ys k) := by
  intro t htx hty
  obtain ⟨a, ha, rfl⟩ := List.mem_map.1 htx
  obtain ⟨b, hb, hab⟩ := List.mem_map.1 hty
  have ha' := List.mem_of_mem_take ha
  have hb' := List.mem_of_mem_take hb
  obtain rfl := CandidateSet.tagAt_injective hc (hys b hb') (hxs a ha') hab
  exact h ha' hb'

/-- In a list whose members pairwise never both pass a test, a member that passes it is the
only one. -/
theorem countP_eq_one_of_pairwise {α : Type} {p : α → Bool} {l : List α}
    (hl : l.Pairwise fun a b => ¬(p a ∧ p b)) {a : α} (ha : a ∈ l) (hpa : p a) : l.countP p = 1 := by
  induction l with
  | nil => cases ha
  | cons b rest ih =>
    obtain ⟨hb, hrest⟩ := List.pairwise_cons.1 hl
    rcases List.mem_cons.1 ha with rfl | ha'
    · rw [List.countP_cons_of_pos hpa, List.countP_eq_zero.2 fun x hx hpx => hb x hx ⟨hpa, hpx⟩]
    · have hpb : ¬p b := fun hpb => hb a ha' ⟨hpb, hpa⟩
      rw [List.countP_cons_of_neg hpb, ih hrest ha']

/-- What the tagsets view promises of the sectors it plans over some stages. -/
structure TagsetsPlan (s : Snapshot) (st : Stages) (sectors : List PlannedSector) : Prop where
  /-- Each sector lists some items, strictly ascending. -/
  items_sorted : ∀ sec ∈ sectors, sec.items ≠ [] ∧ sec.items.Pairwise (· < ·)
  items_disjoint : sectors.Pairwise fun a b => a.items.Disjoint b.items
  total_le : (sectors.map fun sec => sec.items.length).sum ≤ s.totalItems
  /-- Each sector comes from a kept component: it shows the tags of the component's first
  members in dense-index order, and each of its items carries a tag of the component. -/
  from_component : ∀ sec ∈ sectors, ∃ C ∈ st.kept, C.members.Pairwise (· < ·) ∧
    sec.tags = (C.members.take st.tuning.maxSetSize).map st.candidates.tagAt ∧
    ∀ item ∈ sec.items, ∃ j ∈ C.members, st.candidates.tagAt j ∈ s.tagsOf item
  tags_disjoint : sectors.Pairwise fun a b => a.tags.Disjoint b.tags
  length_le : sectors.length ≤ st.tuning.maxSets
  /-- When the kept components that receive items fit in `maxSets`, every item carrying a
  tag of a kept component is in exactly one sector. -/
  complete : (assignItems st.memberships st.kept st.candidates).countP (fun items => items ≠ []) ≤
      st.tuning.maxSets → ∀ C ∈ st.kept, ∀ j ∈ C.members, ∀ item,
      st.candidates.tagAt j ∈ s.tagsOf item → sectors.countP (fun sec => item ∈ sec.items) = 1

namespace Stages

variable {s : Snapshot} {st : Stages} (hs : s.Valid)
  (hm : st.memberships = st.candidates.memberships s)
include hs hm

theorem items_nodup : (st.memberships.map Prod.fst).Nodup := by
  rw [hm]
  exact (CandidateSet.memberships_items_sorted hs).nodup

omit hs in
/-- An item placed in a component carries one of the component's tags. -/
theorem carries_of_mem_placed {e : Component × List Int} (he : e ∈ st.placed) {item : Int}
    (hi : item ∈ e.2) : ∃ j ∈ e.1.members, st.candidates.tagAt j ∈ s.tagsOf item := by
  obtain ⟨c, hc, he2⟩ := mem_placed.1 he
  rw [he2, mem_placedIn] at hi
  obtain ⟨C, hC, tags, hmem, j, hj, hjC⟩ := exists_tag_of_mem_placements hi
  obtain rfl : C = e.1 := Option.some_inj.1 (hC.symm.trans hc)
  rw [hm] at hmem
  exact ⟨j, hjC, CandidateSet.tagAt_mem_tagsOf hmem hj⟩

theorem items_sorted_of_mem {sec : PlannedSector} (hsec : sec ∈ st.tagsetSectors) :
    sec.items ≠ [] ∧ sec.items.Pairwise (· < ·) := by
  obtain ⟨e, he, hne, rfl⟩ := exists_of_mem_tagsetSectors hsec
  obtain ⟨c, -, he2⟩ := mem_placed.1 he
  have hnodup : e.2.Nodup := he2 ▸ nodup_placedIn (items_nodup hs hm) c
  refine ⟨?_, pairwise_lt_mergeSort hnodup⟩
  rw [toSector, ← List.length_pos_iff, List.length_mergeSort]
  exact List.length_pos_iff.2 hne

theorem items_disjoint :
    st.tagsetSectors.Pairwise fun a b => a.items.Disjoint b.items :=
  pairwise_tagsetSectors ((pairwise_placed (items_nodup hs hm)).imp fun hab _ ha hb =>
    hab.2 (List.mem_mergeSort.1 ha) (List.mem_mergeSort.1 hb))

/-- Sector items are items of the snapshot, each counted once. -/
theorem sum_length_le :
    (st.tagsetSectors.map fun sec => sec.items.length).sum ≤ s.totalItems := by
  have hnodup : (st.tagsetSectors.flatMap PlannedSector.items).Nodup :=
    List.nodup_flatMap.2 ⟨fun sec hsec => (items_sorted_of_mem hs hm hsec).2.nodup,
      items_disjoint hs hm⟩
  have hsub : st.tagsetSectors.flatMap PlannedSector.items ⊆ s.itemTags.map Prod.fst := by
    intro item hitem
    obtain ⟨sec, hsec, hi⟩ := List.mem_flatMap.1 hitem
    obtain ⟨e, he, -, rfl⟩ := exists_of_mem_tagsetSectors hsec
    obtain ⟨j, -, hj⟩ := carries_of_mem_placed hm he (List.mem_mergeSort.1 hi)
    exact hs.mem_items.2 ⟨_, hj⟩
  rw [← List.length_flatMap]
  exact (List.subperm_of_subset hnodup hsub).length_le.trans_eq
    (by rw [List.length_map, Snapshot.totalItems_eq_length_itemTags])

omit hs in
theorem from_component {sec : PlannedSector} (hsec : sec ∈ st.tagsetSectors) :
    ∃ C ∈ st.kept, C.members.Pairwise (· < ·) ∧
      sec.tags = (C.members.take st.tuning.maxSetSize).map st.candidates.tagAt ∧
      ∀ item ∈ sec.items, ∃ j ∈ C.members, st.candidates.tagAt j ∈ s.tagsOf item := by
  obtain ⟨e, he, -, rfl⟩ := exists_of_mem_tagsetSectors hsec
  have hC : e.1 ∈ st.kept := (List.of_mem_zip he).1
  exact ⟨e.1, hC, sorted_of_mem_kept hC, rfl,
    fun item hi => carries_of_mem_placed hm he (List.mem_mergeSort.1 hi)⟩

theorem tags_disjoint (hc : st.candidates.Distinct) :
    st.tagsetSectors.Pairwise fun a b => a.tags.Disjoint b.tags := by
  refine pairwise_tagsetSectors ((List.Pairwise.imp_of_mem ?_ (pairwise_placed (items_nodup hs hm))))
  intro a b ha hb hab
  exact disjoint_displayTags hc (fun j hj => lt_size_of_mem_kept (List.of_mem_zip ha).1 hj)
    (fun j hj => lt_size_of_mem_kept (List.of_mem_zip hb).1 hj) hab.1 _

/-- When the components that receive items fit in `maxSets`, an item carrying a tag of a kept
component is in exactly one sector. -/
theorem countP_mem_tagsetSectors (hc : st.candidates.Distinct)
    (hfit : (assignItems st.memberships st.kept st.candidates).countP (fun items => items ≠ []) ≤
      st.tuning.maxSets)
    {C : Component} (hC : C ∈ st.kept) {j : Nat} (hj : j ∈ C.members) {item : Int}
    (hitem : st.candidates.tagAt j ∈ s.tagsOf item) :
    st.tagsetSectors.countP (fun sec => item ∈ sec.items) = 1 := by
  have hjlt := lt_size_of_mem_kept hC hj
  obtain ⟨dense, hmem, hjd⟩ := CandidateSet.exists_mem_memberships hs hc hjlt hitem
  rw [← hm] at hmem
  obtain ⟨c, hplace⟩ := exists_placement hmem hC hjd hj hjlt
  obtain ⟨C', hC', -⟩ := exists_tag_of_mem_placements hplace
  have hin : (C', placedIn st.memberships st.kept st.candidates c) ∈ st.placed :=
    mem_placed.2 ⟨c, hC', rfl⟩
  have hlen : (st.placed.filter fun e => !e.2.isEmpty).length ≤ st.tuning.maxSets :=
    length_receiving ▸ hfit
  have hsec : st.toSector (C', placedIn st.memberships st.kept st.candidates c) ∈ st.tagsetSectors := by
    rw [tagsetSectors, List.take_of_length_le hlen]
    refine List.mem_map_of_mem (List.mem_filter.2 ⟨hin, ?_⟩)
    simpa using List.ne_nil_of_mem (mem_placedIn.2 hplace)
  refine countP_eq_one_of_pairwise ((items_disjoint hs hm).imp fun hab h => ?_) hsec ?_
  · simp only [decide_eq_true_eq] at h
    exact hab h.1 h.2
  · simpa [toSector] using mem_placedIn.2 hplace

/-- The tagsets view over the stages of a valid snapshot keeps its promises. -/
theorem tagsetsPlan (hc : st.candidates.Distinct) : TagsetsPlan s st st.tagsetSectors where
  items_sorted _ hsec := items_sorted_of_mem hs hm hsec
  items_disjoint := items_disjoint hs hm
  total_le := sum_length_le hs hm
  from_component _ hsec := from_component hm hsec
  tags_disjoint := tags_disjoint hs hm hc
  length_le := by
    rw [tagsetSectors, List.length_map]
    exact List.length_take_le _ _
  complete hfit _ hC _ hj _ hitem := countP_mem_tagsetSectors hs hm hc hfit hC hj hitem

end Stages

theorem tagsetsPlan_planSectors (rows : List Application) {p : Params} (hview : p.view = .tagsets) :
    TagsetsPlan (Snapshot.ofApplications rows) (Stages.compute (Snapshot.ofApplications rows) p)
      (planSectors (Snapshot.ofApplications rows) p).sectors := by
  rw [sectors_planSectors _ _ hview]
  exact Stages.tagsetsPlan (Snapshot.valid_ofApplications _) rfl
    (distinct_selectCandidates (Snapshot.valid_ofApplications _) _ _)

/-- The sectors a store answers a tagsets query that is not custom hold, all counted together,
no more items than the corpus the query loads. -/
theorem sum_itemCount_queryAnswer_le {m : MemoryStore} {p : Params} (hview : p.view = .tagsets)
    (hcustom : p.isCustom = false) :
    ((m.queryAnswer p).map Sector.itemCount).sum ≤
      (Snapshot.ofApplications (m.queryRows p)).totalItems := by
  unfold MemoryStore.queryAnswer MemoryStore.queryPlan
  simp only [hcustom, Bool.false_eq_true, if_false]
  split_ifs with hrows
  · simp
  · rw [Option.elim_some]
    calc ((m.reportFrom p (planSectors (Snapshot.ofApplications (m.queryRows p)) p)).map
            Sector.itemCount).sum
        ≤ ((planSectors (Snapshot.ofApplications (m.queryRows p)) p).sectors.map
            fun sec => sec.items.length).sum := sum_itemCount_buildSectors_le _ _ _ _
      _ ≤ (Snapshot.ofApplications (m.queryRows p)).totalItems :=
          (tagsetsPlan_planSectors (m.queryRows p) hview).total_le

/-- The tagsets view of every snapshot of applications: sectors hold some items, ascending,
and share no item and no tag; each comes from a kept component of the partition and shows its
first tags; there are at most `maxSets` of them; and when the components that receive items
fit, no item with a tag of a kept component is lost. So a served tagsets query that is not
custom, when it finishes with sectors, reports item counts that sum to at most the number of
items of the corpus it loaded. -/
theorem tagsets_plan (rows : List Application) (p : Params) (hview : p.view = .tagsets) :
    TagsetsPlan (Snapshot.ofApplications rows) (Stages.compute (Snapshot.ofApplications rows) p)
      (planSectors (Snapshot.ofApplications rows) p).sectors ∧
    (p.isCustom = false → ∀ (s : ServiceState) (fs : FaultyStore) (d : Option Nat)
      (sectors : List Sector), (s.query fs d p).1 = .finished (.ok sectors) →
      (sectors.map Sector.itemCount).sum ≤
        (Snapshot.ofApplications (fs.store.queryRows p)).totalItems) := by
  refine ⟨tagsetsPlan_planSectors rows hview, fun hcustom s fs d sectors hfin => ?_⟩
  rw [query_finished_ok s fs p d hfin]
  exact sum_itemCount_queryAnswer_le hview hcustom

/-- Five rows over three items and three tags, one of them by a contributor. -/
def sharedTagRows : List Application :=
  [.prediction 1 10, .prediction 1 20, .prediction 2 20, .prediction 3 30, .byContributor 3 10 5]

/-- A tagsets query at a low consolidation over items sharing tags. -/
theorem tagsets_plan_shared_tags :
    ({ consolidation := 0.2 } : Params).view = .tagsets ∧
      ({ consolidation := 0.2 } : Params).isCustom = false ∧
      TagsetsPlan (Snapshot.ofApplications sharedTagRows)
        (Stages.compute (Snapshot.ofApplications sharedTagRows) { consolidation := 0.2 })
        (planSectors (Snapshot.ofApplications sharedTagRows) { consolidation := 0.2 }).sectors ∧
      (({ consolidation := 0.2 } : Params).isCustom = false →
        ∀ (s : ServiceState) (fs : FaultyStore) (d : Option Nat) (sectors : List Sector),
          (s.query fs d { consolidation := 0.2 }).1 = .finished (.ok sectors) →
          (sectors.map Sector.itemCount).sum ≤
            (Snapshot.ofApplications (fs.store.queryRows { consolidation := 0.2 })).totalItems) :=
  ⟨rfl, rfl, tagsets_plan _ _ rfl⟩

end TagAtlas
