import TagAtlas.Proofs.Partition
import TagAtlas.Proofs.FloatOrder
import TagAtlas.Proofs.NeighborGraph
/-! Mutual components are the classes of the mutual-neighbour relation. Linking two groups merges
them and keeps every other group, so once every mutual pair is linked, two tags share a group
exactly when a path of mutual pairs joins them. A component's mass is the support sum of its
members, and components are listed by mass descending, then by anchor ascending, strictly,
since different components have different anchors. At either end of the consolidation a
partition skips the graph: every tag alone, or all tags in one component, or none when there
is no tag. -/
namespace TagAtlas

namespace NeighborGraph

variable {g : NeighborGraph}

theorem isMutual_comm (g : NeighborGraph) (a b : Nat) : g.isMutual a b = g.isMutual b a := by
  unfold isMutual
  rw [bne_comm]
  cases g.contains a b <;> cases g.contains b a <;> simp

theorem lt_size_of_contains {a b : Nat} (h : g.contains a b = true) : a < g.size := by
  by_contra hge
  have hnone : g.neighbors a = [] := by
    simp [neighbors, Array.getElem?_eq_none (Nat.le_of_not_lt hge)]
  simp [contains, hnone] at h

theorem lt_size_of_isMutual {a b : Nat} (h : g.isMutual a b = true) : a < g.size ∧ b < g.size := by
  simp only [isMutual, Bool.and_eq_true] at h
  exact ⟨lt_size_of_contains h.1.2, lt_size_of_contains h.2⟩

/-- Tags joined by a path of mutual-neighbour pairs. -/
def Joined (g : NeighborGraph) : Nat → Nat → Prop :=
  Relation.ReflTransGen fun x y => g.isMutual x y = true

theorem Joined.symm {i j : Nat} (h : g.Joined i j) : g.Joined j i := by
  induction h with
  | refl => exact Relation.ReflTransGen.refl
  | tail _ hyz ih => exact Relation.ReflTransGen.head (by rwa [isMutual_comm]) ih

/-- The mutual pairs the grouping links, each from the side of its first tag. -/
def mutualLinks (n : Nat) (g : NeighborGraph) : List (Nat × Nat) :=
  (List.range (min n g.size)).flatMap fun a =>
    ((g.neighbors a).filter (fun nb => g.isMutual a nb.tag)).map fun nb => (a, nb.tag)

theorem mem_mutualLinks {n a b : Nat} : (a, b) ∈ mutualLinks n g ↔ a < n ∧ g.isMutual a b = true := by
  simp only [mutualLinks, List.mem_flatMap, List.mem_range, List.mem_map, List.mem_filter,
    Prod.mk.injEq]
  constructor
  · rintro ⟨a', ha', nb, ⟨-, hmut⟩, rfl, rfl⟩
    exact ⟨lt_of_lt_of_le ha' (min_le_left _ _), hmut⟩
  · rintro ⟨ha, hmut⟩
    have hcontains : g.contains a b = true := by
      simp only [isMutual, Bool.and_eq_true] at hmut
      exact hmut.1.2
    obtain ⟨nb, hnb, htag⟩ := List.any_eq_true.1 hcontains
    rw [beq_iff_eq] at htag
    subst htag
    exact ⟨a, lt_min ha (lt_size_of_isMutual hmut).1, nb, ⟨hnb, hmut⟩, rfl, rfl⟩

end NeighborGraph

open NeighborGraph

theorem mutualGroups_eq (n : Nat) (g : NeighborGraph) :
    mutualGroups n g =
      (mutualLinks n g).foldl (fun gs l => linkGroups gs l.1 l.2) ((List.range n).map fun i => [i]) :=
  rfl

section Groups

variable {n : Nat} {groups : List (List Nat)}

/-- Two tags in one group. -/
def SameGroup (groups : List (List Nat)) (i j : Nat) : Prop := ∃ G ∈ groups, i ∈ G ∧ j ∈ G

theorem GroupsSplit.exists_mem (h : GroupsSplit n groups) {i : Nat} (hi : i < n) :
    ∃ G ∈ groups, i ∈ G :=
  List.mem_flatten.1 (h.perm.symm.subset (List.mem_range.2 hi))

theorem GroupsSplit.sameGroup_refl (h : GroupsSplit n groups) {i : Nat} (hi : i < n) :
    SameGroup groups i i :=
  let ⟨G, hG, hiG⟩ := h.exists_mem hi
  ⟨G, hG, hiG, hiG⟩

theorem GroupsSplit.sameGroup_trans (h : GroupsSplit n groups) {i j k : Nat}
    (hij : SameGroup groups i j) (hjk : SameGroup groups j k) : SameGroup groups i k := by
  obtain ⟨G, hG, hiG, hjG⟩ := hij
  obtain ⟨G', hG', hjG', hkG'⟩ := hjk
  have hsame : G = G' :=
    eq_of_mem_of_mem_groups (h.perm.nodup_iff.2 List.nodup_range) hG hG' hjG hjG'
  subst hsame
  exact ⟨G, hG, hiG, hkG'⟩

/-- Linking keeps two tags that share a group together. -/
theorem GroupsSplit.sameGroup_linkGroups (h : GroupsSplit n groups) {i j : Nat}
    (hij : SameGroup groups i j) (a b : Nat) : SameGroup (TagAtlas.linkGroups groups a b) i j := by
  have hnodup := h.perm.nodup_iff.2 List.nodup_range
  obtain ⟨G, hG, hiG, hjG⟩ := hij
  unfold TagAtlas.linkGroups
  split
  · rename_i ga gb hfa hfb
    have hga := List.mem_of_find?_eq_some hfa
    have hgb := List.mem_of_find?_eq_some hfb
    have ha : a ∈ ga := by simpa using List.find?_some hfa
    have hb : b ∈ gb := by simpa using List.find?_some hfb
    split_ifs
    · exact ⟨G, hG, hiG, hjG⟩
    · by_cases htouched : G.contains a || G.contains b
      · -- the group is one of the two merged ones
        have hsub : G ⊆ ga ++ gb := by
          rcases Bool.or_eq_true_iff.1 htouched with hGa | hGb
          · rw [eq_of_mem_of_mem_groups hnodup hG hga (by simpa using hGa) ha]
            exact List.subset_append_left ga gb
          · rw [eq_of_mem_of_mem_groups hnodup hG hgb (by simpa using hGb) hb]
            exact List.subset_append_right ga gb
        exact ⟨ga ++ gb, List.mem_cons_self .., hsub hiG, hsub hjG⟩
      · exact ⟨G, List.mem_cons_of_mem _ (List.mem_filter.2 ⟨hG, by simpa using htouched⟩), hiG, hjG⟩
  · exact ⟨G, hG, hiG, hjG⟩

/-- Linking two tags of the groups puts them in one group. -/
theorem GroupsSplit.sameGroup_linkGroups_self (h : GroupsSplit n groups) {a b : Nat}
    (ha : a < n) (hb : b < n) : SameGroup (TagAtlas.linkGroups groups a b) a b := by
  have hfa : (groups.find? (·.contains a)).isSome := by
    obtain ⟨G, hG, haG⟩ := h.exists_mem ha
    exact List.find?_isSome.2 ⟨G, hG, by simpa using haG⟩
  have hfb : (groups.find? (·.contains b)).isSome := by
    obtain ⟨G, hG, hbG⟩ := h.exists_mem hb
    exact List.find?_isSome.2 ⟨G, hG, by simpa using hbG⟩
  obtain ⟨ga, hga⟩ := Option.isSome_iff_exists.1 hfa
  obtain ⟨gb, hgb⟩ := Option.isSome_iff_exists.1 hfb
  have haga : a ∈ ga := by simpa using List.find?_some hga
  have hbgb : b ∈ gb := by simpa using List.find?_some hgb
  unfold TagAtlas.linkGroups
  rw [hga, hgb]
  dsimp only
  split_ifs with hbga
  · exact ⟨ga, List.mem_of_find?_eq_some hga, haga, by simpa using hbga⟩
  · exact ⟨ga ++ gb, List.mem_cons_self .., List.mem_append_left gb haga,
      List.mem_append_right ga hbgb⟩

/-- After a run of links, tags that shared a group still do, and the two ends of every link
share one. -/
theorem GroupsSplit.sameGroup_foldl (h : GroupsSplit n groups) {links : List (Nat × Nat)}
    (hlt : ∀ l ∈ links, l.1 < n ∧ l.2 < n) :
    (∀ i j, SameGroup groups i j →
        SameGroup (links.foldl (fun gs l => TagAtlas.linkGroups gs l.1 l.2) groups) i j) ∧
      ∀ l ∈ links,
        SameGroup (links.foldl (fun gs l => TagAtlas.linkGroups gs l.1 l.2) groups) l.1 l.2 := by
  induction links generalizing groups with
  | nil => exact ⟨fun _ _ hij => hij, by simp⟩
  | cons l rest ih =>
    obtain ⟨hmono, hlinks⟩ := ih (h.linkGroups l.1 l.2) fun l' hl' => hlt l' (List.mem_cons_of_mem _ hl')
    refine ⟨fun i j hij => hmono i j (h.sameGroup_linkGroups hij l.1 l.2), ?_⟩
    rintro l' (_ | ⟨_, hl'⟩)
    · have hl := hlt l (List.mem_cons_self ..)
      exact hmono _ _ (h.sameGroup_linkGroups_self hl.1 hl.2)
    · exact hlinks l' hl'

/-- Groups whose members are all joined to each other. -/
def GroupsJoined (g : NeighborGraph) (groups : List (List Nat)) : Prop :=
  ∀ G ∈ groups, ∀ i ∈ G, ∀ j ∈ G, g.Joined i j

/-- Linking the ends of a mutual pair keeps every group joined. -/
theorem GroupsJoined.linkGroups {g : NeighborGraph} (h : GroupsJoined g groups) {a b : Nat}
    (hab : g.isMutual a b = true) : GroupsJoined g (TagAtlas.linkGroups groups a b) := by
  unfold TagAtlas.linkGroups
  split
  · rename_i ga gb hfa hfb
    have hga := h ga (List.mem_of_find?_eq_some hfa)
    have hgb := h gb (List.mem_of_find?_eq_some hfb)
    have ha : a ∈ ga := by simpa using List.find?_some hfa
    have hb : b ∈ gb := by simpa using List.find?_some hfb
    split_ifs
    · exact h
    · rintro G (_ | ⟨_, hG⟩)
      · -- in the merged group, a path between the two halves crosses the link
        have hba : g.isMutual b a = true := by rwa [isMutual_comm]
        intro i hi j hj
        rcases List.mem_append.1 hi with hi | hi <;> rcases List.mem_append.1 hj with hj | hj
        · exact hga i hi j hj
        · exact ((hga i hi a ha).tail hab).trans (hgb b hb j hj)
        · exact ((hgb i hi b hb).tail hba).trans (hga a ha j hj)
        · exact hgb i hi j hj
      · exact h G (List.mem_of_mem_filter hG)
  · exact h

theorem groupsJoined_singletons (g : NeighborGraph) (n : Nat) :
    GroupsJoined g ((List.range n).map fun i => [i]) := by
  intro G hG i hi j hj
  obtain ⟨k, -, rfl⟩ := List.mem_map.1 hG
  rw [List.mem_singleton] at hi hj
  subst hi hj
  exact Relation.ReflTransGen.refl

/-- Linking mutual pairs one after another keeps every group joined. -/
theorem GroupsJoined.foldl {g : NeighborGraph} {links : List (Nat × Nat)}
    (hlinks : ∀ l ∈ links, g.isMutual l.1 l.2 = true) (h : GroupsJoined g groups) :
    GroupsJoined g (links.foldl (fun gs l => TagAtlas.linkGroups gs l.1 l.2) groups) := by
  induction links generalizing groups with
  | nil => exact h
  | cons l rest ih =>
    exact ih (fun l' hl' => hlinks l' (List.mem_cons_of_mem _ hl'))
      (h.linkGroups (hlinks l List.mem_cons_self))

theorem groupsJoined_mutualGroups (g : NeighborGraph) (n : Nat) : GroupsJoined g (mutualGroups n g) := by
  rw [mutualGroups_eq]
  exact (groupsJoined_singletons g n).foldl fun l hl => (mem_mutualLinks.1 hl).2

/-- Two tags share a mutual group exactly when a path of mutual pairs joins them. -/
theorem sameGroup_mutualGroups_iff {g : NeighborGraph} (hsize : g.size = n) {i j : Nat}
    (hi : i < n) : SameGroup (mutualGroups n g) i j ↔ g.Joined i j := by
  have hsplit := groupsSplit_mutualGroups n g
  constructor
  · rintro ⟨G, hG, hiG, hjG⟩
    exact groupsJoined_mutualGroups g n G hG i hiG j hjG
  · intro hij
    have hlt : ∀ l ∈ mutualLinks n g, l.1 < n ∧ l.2 < n := fun l hl => by
      have hmut := (mem_mutualLinks.1 hl).2
      exact ⟨(mem_mutualLinks.1 hl).1, hsize ▸ (lt_size_of_isMutual hmut).2⟩
    have hlinked := ((groupsSplit_singletons n).sameGroup_foldl hlt).2
    rw [← mutualGroups_eq] at hlinked
    -- follow the path one mutual pair at a time
    induction hij with
    | refl => exact hsplit.sameGroup_refl hi
    | tail _ hyz ih =>
      have hy := hsize ▸ (lt_size_of_isMutual hyz).1
      exact hsplit.sameGroup_trans ih (hlinked _ (mem_mutualLinks.2 ⟨hy, hyz⟩))

end Groups

section Components

variable {cands : CandidateSet} {g : NeighborGraph}

@[simp] theorem mem_members_ofMembers {ms : List Nat} {x : Nat} :
    x ∈ (Component.ofMembers cands ms).members ↔ x ∈ ms := by
  rw [members_ofMembers, List.mem_mergeSort]

theorem mass_ofMembers (cands : CandidateSet) (ms : List Nat) :
    (Component.ofMembers cands ms).mass =
      ((Component.ofMembers cands ms).members.map cands.supportAt).sum := by
  rw [List.sum_eq_foldl_nat]
  rfl

theorem mem_mutualComponents {C : Component} :
    C ∈ mutualComponents cands g ↔ ∃ G ∈ mutualGroups cands.size g, Component.ofMembers cands G = C := by
  rw [mutualComponents, List.mem_mergeSort, List.mem_map]

/-- Two tags lie in one mutual component exactly when a path of mutual pairs joins them. -/
theorem together_mutualComponents_iff (hsize : g.size = cands.size) {i j : Nat} (hi : i < cands.size) :
    (∃ C ∈ mutualComponents cands g, i ∈ C.members ∧ j ∈ C.members) ↔ g.Joined i j := by
  rw [← sameGroup_mutualGroups_iff hsize hi]
  constructor
  · rintro ⟨C, hC, hiC, hjC⟩
    obtain ⟨G, hG, rfl⟩ := mem_mutualComponents.1 hC
    exact ⟨G, hG, mem_members_ofMembers.1 hiC, mem_members_ofMembers.1 hjC⟩
  · rintro ⟨G, hG, hiG, hjG⟩
    exact ⟨_, mem_mutualComponents.2 ⟨G, hG, rfl⟩, mem_members_ofMembers.2 hiG,
      mem_members_ofMembers.2 hjG⟩

end Components

namespace Component

/-- `x` is listed strictly before `y`: more mass, or as much mass and a smaller anchor. -/
def Precedes (x y : Component) : Prop := y.mass < x.mass ∨ (x.mass = y.mass ∧ x.anchor < y.anchor)

theorem before_trans (x y z : Component) (hxy : before x y = true) (hyz : before y z = true) :
    before x z = true := by
  simp only [before, Bool.or_eq_true, Bool.and_eq_true, decide_eq_true_eq, beq_iff_eq] at *
  omega

theorem before_total (x y : Component) : (before x y || before y x) = true := by
  simp only [before, Bool.or_eq_true, Bool.and_eq_true, decide_eq_true_eq, beq_iff_eq]
  omega

theorem anchor_mem {c : Component} (h : c.members ≠ []) : c.anchor ∈ c.members := by
  obtain ⟨x, xs, hx⟩ := List.exists_cons_of_ne_nil h
  simp [anchor, hx]

/-- Components that split the indices have different anchors, so the order by mass and anchor
is strict on them. -/
theorem pairwise_precedes_of_before {n : Nat} {comps : List Component} (h : SplitsRange n comps)
    (hbefore : comps.Pairwise fun x y => before x y = true) : comps.Pairwise Precedes := by
  have hanchors : comps.Pairwise fun x y => x.anchor ≠ y.anchor :=
    h.pairwise_disjoint.imp_of_mem fun hx hy hxy heq =>
      hxy (anchor_mem (h.nonempty _ hx)) (heq ▸ anchor_mem (h.nonempty _ hy))
  refine (hbefore.and hanchors).imp fun ⟨hle, hne⟩ => ?_
  simp only [before, Bool.or_eq_true, Bool.and_eq_true, decide_eq_true_eq, beq_iff_eq] at hle
  unfold Precedes
  omega

end Component

/-- Supports that do not grow with the dense index, as candidate selection lists them. -/
def CandidateSet.SupportsDescending (cands : CandidateSet) : Prop :=
  ∀ i j, i < j → j < cands.size → cands.supportAt j ≤ cands.supportAt i

/-- What mutual components promise: they split the indices, two tags share one exactly when a
path of mutual pairs joins them, each has the support sum of its members as mass, and they
are listed strictly by mass descending, then by anchor ascending. -/
structure MutualSplit (cands : CandidateSet) (g : NeighborGraph) (comps : List Component) : Prop where
  splits : SplitsRange cands.size comps
  together_iff : ∀ i < cands.size, ∀ j,
    (∃ C ∈ comps, i ∈ C.members ∧ j ∈ C.members) ↔ g.Joined i j
  mass_eq : ∀ C ∈ comps, C.mass = (C.members.map cands.supportAt).sum
  byMass : comps.Pairwise Component.Precedes

theorem mutualSplit_mutualComponents {cands : CandidateSet} {g : NeighborGraph}
    (hsize : g.size = cands.size) : MutualSplit cands g (mutualComponents cands g) where
  splits := splitsRange_mutualComponents cands g
  together_iff _ hi _ := together_mutualComponents_iff hsize hi
  mass_eq C hC := by
    obtain ⟨G, -, rfl⟩ := mem_mutualComponents.1 hC
    exact mass_ofMembers cands G
  byMass := Component.pairwise_precedes_of_before (splitsRange_mutualComponents cands g)
    (List.pairwise_mergeSort Component.before_trans Component.before_total _)

section Partition

variable {cands : CandidateSet} {g : NeighborGraph} {t : Tuning}

theorem mutualComponents_of_size_eq_zero (h : cands.size = 0) : mutualComponents cands g = [] := by
  simp [mutualComponents, mutualGroups, h]

/-- No consolidation is at once at the strict end and at the merged end. -/
theorem forcesSingletons_eq_false (h : t.forcesSingleComponent = true) : t.forcesSingletons = false := by
  simp only [Tuning.forcesSingleComponent, Tuning.forcesSingletons, decide_eq_true_eq,
    decide_eq_false_iff_not] at h ⊢
  intro hstrict
  have : Tuning.megaConsolidation ≤ Tuning.strictConsolidation := float_le_trans h hstrict
  revert this
  decide

theorem partition_of_not_forces (h₁ : t.forcesSingletons = false) (h₂ : t.forcesSingleComponent = false) :
    partition cands g t = mutualComponents cands g := by
  unfold partition
  split_ifs with h₀
  · exact (mutualComponents_of_size_eq_zero h₀).symm
  · simp_all
  · simp_all
  · rfl

theorem ofMembers_singleton (cands : CandidateSet) (i : Nat) :
    Component.ofMembers cands [i] = ⟨[i], cands.supportAt i⟩ := by
  simp [Component.ofMembers]

theorem ofMembers_range (cands : CandidateSet) (n : Nat) :
    Component.ofMembers cands (List.range n) = ⟨List.range n, ((List.range n).map cands.supportAt).sum⟩ := by
  have hsorted : (List.range n).mergeSort (· ≤ ·) = List.range n :=
    List.mergeSort_eq_self _ (List.pairwise_lt_range.imp Nat.le_of_lt)
  simp only [Component.ofMembers, hsorted, List.sum_eq_foldl_nat]

theorem partition_of_forcesSingletons (h : t.forcesSingletons = true) :
    partition cands g t = (List.range cands.size).map fun i => ⟨[i], cands.supportAt i⟩ := by
  unfold partition
  split_ifs with h₀
  · simp [h₀]
  · simp [ofMembers_singleton]

theorem partition_of_forcesSingleComponent (h : t.forcesSingleComponent = true) :
    partition cands g t = if cands.size = 0 then [] else
      [⟨List.range cands.size, ((List.range cands.size).map cands.supportAt).sum⟩] := by
  have h₁ := forcesSingletons_eq_false h
  unfold partition
  simp only [h₁, h, Bool.false_eq_true, if_false, if_true, ofMembers_range]

theorem pairwise_precedes_singletons (hdesc : cands.SupportsDescending) :
    ((List.range cands.size).map fun i => (⟨[i], cands.supportAt i⟩ : Component)).Pairwise
      Component.Precedes := by
  rw [List.pairwise_map]
  refine List.pairwise_lt_range.imp_of_mem fun _ hj hij => ?_
  have hle := hdesc _ _ hij (List.mem_range.1 hj)
  simp only [Component.Precedes, Component.anchor, List.head?_cons, Option.getD_some]
  omega

/-- Under supports that do not grow with the index, every partition is listed strictly by mass
descending, then by anchor ascending. -/
theorem pairwise_precedes_partition (hsize : g.size = cands.size) (hdesc : cands.SupportsDescending)
    (t : Tuning) : (partition cands g t).Pairwise Component.Precedes := by
  cases h₁ : t.forcesSingletons
  · cases h₂ : t.forcesSingleComponent
    · rw [partition_of_not_forces h₁ h₂]
      exact (mutualSplit_mutualComponents hsize).byMass
    · rw [partition_of_forcesSingleComponent h₂]
      split_ifs <;> simp
  · rw [partition_of_forcesSingletons h₁]
    exact pairwise_precedes_singletons hdesc

end Partition

/-- What a partition promises: its mutual components split the indices into the classes of the
mutual-neighbour relation, with their support sums as masses, listed strictly by mass and
anchor. Away from both ends of the consolidation the partition is the mutual components; at the
strict end it is every tag alone, in index order; at the merged end it is one component of every
tag, or none when there is no tag. With supports that do not grow with the index, every
partition keeps the order by mass and anchor. -/
structure PartitionSpec (cands : CandidateSet) (g : NeighborGraph) (t : Tuning) : Prop where
  components : MutualSplit cands g (mutualComponents cands g)
  of_not_forces : t.forcesSingletons = false → t.forcesSingleComponent = false →
    partition cands g t = mutualComponents cands g
  of_forcesSingletons : t.forcesSingletons = true →
    partition cands g t = (List.range cands.size).map fun i => ⟨[i], cands.supportAt i⟩
  of_forcesSingleComponent : t.forcesSingleComponent = true →
    partition cands g t = if cands.size = 0 then [] else
      [⟨List.range cands.size, ((List.range cands.size).map cands.supportAt).sum⟩]
  byMass_of_descending : cands.SupportsDescending → (partition cands g t).Pairwise Component.Precedes

theorem partition_spec (cands : CandidateSet) (g : NeighborGraph) (hsize : g.size = cands.size)
    (t : Tuning) : PartitionSpec cands g t where
  components := mutualSplit_mutualComponents hsize
  of_not_forces := partition_of_not_forces
  of_forcesSingletons := partition_of_forcesSingletons
  of_forcesSingleComponent := partition_of_forcesSingleComponent
  byMass_of_descending hdesc := pairwise_precedes_partition hsize hdesc t

/-- Three tags, the first two mutual neighbours, at a middle consolidation. -/
theorem partition_spec_three_tags :
    (NeighborGraph.build 3 [⟨0, 1, 10, 0.9⟩] 3).size =
        (⟨#[⟨100, 5⟩, ⟨101, 4⟩, ⟨102, 3⟩]⟩ : CandidateSet).size ∧
      PartitionSpec ⟨#[⟨100, 5⟩, ⟨101, 4⟩, ⟨102, 3⟩]⟩ (NeighborGraph.build 3 [⟨0, 1, 10, 0.9⟩] 3)
        (Tuning.derive 0.5 {}) :=
  have hsize : (NeighborGraph.build 3 [⟨0, 1, 10, 0.9⟩] 3).size =
      (⟨#[⟨100, 5⟩, ⟨101, 4⟩, ⟨102, 3⟩]⟩ : CandidateSet).size := by
    rw [NeighborGraph.size_build]
    rfl
  ⟨hsize, partition_spec _ _ hsize _⟩

/-- At the merged end a candidate set without tags gets no component at all. -/
theorem partition_without_tags :
    (Tuning.derive 1.0 {}).forcesSingleComponent = true ∧
      partition ⟨#[]⟩ ⟨#[]⟩ (Tuning.derive 1.0 {}) = [] :=
  ⟨by decide, rfl⟩

end TagAtlas
