import TagAtlas.Proofs.Canonical
import TagAtlas.Plan.Components
/-! Components split the candidate indices. Linking two groups replaces them by their union
and keeps the other groups, so the groups of the mutual pairs list every index `0 … n-1`
exactly once, and so do the components of every partition, with members ascending. -/
namespace TagAtlas

/-- Groups that list the indices `0 … n-1`, each exactly once, none empty. -/
structure GroupsSplit (n : Nat) (groups : List (List Nat)) : Prop where
  perm : groups.flatten.Perm (List.range n)
  nonempty : ∀ g ∈ groups, g ≠ []

/-- In groups that list no index twice, an index lies in one group only. -/
theorem eq_of_mem_of_mem_groups {groups : List (List Nat)} (h : groups.flatten.Nodup)
    {g₁ g₂ : List Nat} (h₁ : g₁ ∈ groups) (h₂ : g₂ ∈ groups) {x : Nat} (hx₁ : x ∈ g₁)
    (hx₂ : x ∈ g₂) : g₁ = g₂ := by
  by_contra hne
  have : Std.Symm (α := List Nat) List.Disjoint := ⟨fun _ _ hd => hd.symm⟩
  exact (List.nodup_flatten.1 h).2.forall h₁ h₂ hne hx₁ hx₂

/-- The groups touched by a link are the two groups of its ends. -/
theorem touched_perm {groups : List (List Nat)} (h : groups.flatten.Nodup)
    (hne : ∀ g ∈ groups, g ≠ []) {a b : Nat} {ga gb : List Nat} (hga : ga ∈ groups)
    (hgb : gb ∈ groups) (ha : a ∈ ga) (hb : b ∈ gb) (hab : b ∉ ga) :
    (groups.filter fun g => g.contains a || g.contains b).Perm [ga, gb] := by
  -- no group is empty, so two disjoint groups are different groups
  have hgroups : groups.Nodup :=
    List.Pairwise.imp_of_mem (fun hg₁ _ hd heq => by
      obtain ⟨x, hx⟩ := List.exists_mem_of_ne_nil _ (hne _ hg₁)
      exact hd hx (heq ▸ hx)) (List.nodup_flatten.1 h).2
  have hdistinct : ga ≠ gb := fun heq => hab (heq ▸ hb)
  rw [List.perm_ext_iff_of_nodup (hgroups.filter _) (by simpa using hdistinct)]
  intro g
  simp only [List.mem_filter, Bool.or_eq_true, List.contains_iff_mem, List.mem_cons,
    List.not_mem_nil, or_false]
  constructor
  · rintro ⟨hg, hga' | hgb'⟩
    · exact .inl (eq_of_mem_of_mem_groups h hg hga hga' ha)
    · exact .inr (eq_of_mem_of_mem_groups h hg hgb hgb' hb)
  · rintro (rfl | rfl)
    · exact ⟨hga, .inl ha⟩
    · exact ⟨hgb, .inr hb⟩

/-- Linking keeps every index, each once. -/
theorem linkGroups_perm {groups : List (List Nat)} (h : groups.flatten.Nodup)
    (hne : ∀ g ∈ groups, g ≠ []) (a b : Nat) :
    (linkGroups groups a b).flatten.Perm groups.flatten := by
  unfold linkGroups
  split
  · rename_i ga gb hfa hfb
    have hga := List.mem_of_find?_eq_some hfa
    have hgb := List.mem_of_find?_eq_some hfb
    have ha : a ∈ ga := by simpa using List.find?_some hfa
    have hb : b ∈ gb := by simpa using List.find?_some hfb
    split_ifs with hab
    · exact List.Perm.refl _
    · have hsplit := (List.filter_append_perm (fun g => g.contains a || g.contains b) groups).flatten
      rw [List.flatten_append] at hsplit
      refine List.Perm.trans ?_ hsplit
      rw [List.flatten_cons]
      refine List.Perm.append ?_ (by simp)
      have := (touched_perm h hne hga hgb ha hb (by simpa using hab)).flatten
      simpa using this.symm
  · exact List.Perm.refl _

theorem linkGroups_nonempty {groups : List (List Nat)} (hne : ∀ g ∈ groups, g ≠ []) (a b : Nat) :
    ∀ g ∈ linkGroups groups a b, g ≠ [] := by
  unfold linkGroups
  split
  · rename_i ga gb hfa hfb
    split_ifs
    · exact hne
    · rintro g (_ | ⟨_, hg⟩)
      · exact List.append_ne_nil_of_left_ne_nil (hne ga (List.mem_of_find?_eq_some hfa)) gb
      · exact hne g (List.mem_of_mem_filter hg)
  · exact hne

theorem GroupsSplit.linkGroups {n : Nat} {groups : List (List Nat)} (h : GroupsSplit n groups)
    (a b : Nat) : GroupsSplit n (TagAtlas.linkGroups groups a b) :=
  have hnodup := h.perm.nodup_iff.2 List.nodup_range
  ⟨(linkGroups_perm hnodup h.nonempty a b).trans h.perm, linkGroups_nonempty h.nonempty a b⟩

theorem groupsSplit_singletons (n : Nat) : GroupsSplit n ((List.range n).map fun i => [i]) := by
  refine ⟨?_, by simp⟩
  rw [← List.flatMap_def, List.flatMap_singleton']

/-- The groups of the mutual pairs split the indices. -/
theorem groupsSplit_mutualGroups (n : Nat) (g : NeighborGraph) : GroupsSplit n (mutualGroups n g) := by
  unfold mutualGroups
  -- one link at a time, starting from every index alone
  have hinit := groupsSplit_singletons n
  generalize (List.range n).map (fun i => [i]) = start at hinit
  induction (List.range (min n g.size)).flatMap _ generalizing start with
  | nil => exact hinit
  | cons l rest ih => exact ih _ (hinit.linkGroups l.1 l.2)

/-- Components that split the indices `0 … n-1`: each index in exactly one component, members
ascending. -/
structure SplitsRange (n : Nat) (comps : List Component) : Prop where
  perm : (comps.flatMap Component.members).Perm (List.range n)
  sorted : ∀ c ∈ comps, c.members.Pairwise (· < ·)
  nonempty : ∀ c ∈ comps, c.members ≠ []

namespace SplitsRange

variable {n : Nat} {comps : List Component}

theorem nodup (h : SplitsRange n comps) : (comps.flatMap Component.members).Nodup :=
  h.perm.nodup_iff.2 List.nodup_range

theorem lt_of_mem (h : SplitsRange n comps) {c : Component} (hc : c ∈ comps) {j : Nat}
    (hj : j ∈ c.members) : j < n :=
  List.mem_range.1 (h.perm.subset (List.mem_flatMap.2 ⟨c, hc, hj⟩))

/-- Components at different positions share no member. -/
theorem pairwise_disjoint (h : SplitsRange n comps) :
    comps.Pairwise fun x y => x.members.Disjoint y.members :=
  (List.nodup_flatMap.1 h.nodup).2

end SplitsRange

theorem members_ofMembers (cands : CandidateSet) (ms : List Nat) :
    (Component.ofMembers cands ms).members = ms.mergeSort (· ≤ ·) := rfl

theorem sorted_members_ofMembers (cands : CandidateSet) {ms : List Nat} (h : ms.Nodup) :
    (Component.ofMembers cands ms).members.Pairwise (· < ·) := by
  rw [members_ofMembers]
  exact pairwise_lt_mergeSort h

/-- Components made from groups that split the indices split them too. -/
theorem splitsRange_ofGroups (cands : CandidateSet) {n : Nat} {groups : List (List Nat)}
    (h : GroupsSplit n groups) : SplitsRange n (groups.map (Component.ofMembers cands)) := by
  have hnodup := h.perm.nodup_iff.2 List.nodup_range
  refine ⟨?_, ?_, ?_⟩
  · rw [List.flatMap_map]
    refine List.Perm.trans ?_ h.perm
    rw [List.flatten_eq_flatMap]
    exact List.Perm.flatMap_left _ fun ms _ => List.mergeSort_perm ms _
  · intro c hc
    obtain ⟨ms, hms, rfl⟩ := List.mem_map.1 hc
    exact sorted_members_ofMembers cands ((List.nodup_flatten.1 hnodup).1 ms hms)
  · intro c hc
    obtain ⟨ms, hms, rfl⟩ := List.mem_map.1 hc
    rw [members_ofMembers, ← List.length_pos_iff, List.length_mergeSort]
    exact List.length_pos_iff.2 (h.nonempty ms hms)

/-- Mutual components split the candidate indices. -/
theorem splitsRange_mutualComponents (cands : CandidateSet) (g : NeighborGraph) :
    SplitsRange cands.size (mutualComponents cands g) := by
  have h := splitsRange_ofGroups cands (groupsSplit_mutualGroups cands.size g)
  have hperm := List.mergeSort_perm ((mutualGroups cands.size g).map (Component.ofMembers cands))
    Component.before
  exact ⟨(hperm.flatMap_right _).trans h.perm, fun c hc => h.sorted c (hperm.subset hc),
    fun c hc => h.nonempty c (hperm.subset hc)⟩

/-- Every partition splits the candidate indices. -/
theorem splitsRange_partition (cands : CandidateSet) (g : NeighborGraph) (t : Tuning) :
    SplitsRange cands.size (partition cands g t) := by
  unfold partition
  split_ifs with hzero
  · exact ⟨by simp [hzero], by simp, by simp⟩
  · have h := splitsRange_ofGroups cands (groupsSplit_singletons cands.size)
    simpa [List.map_map, Function.comp_def] using h
  · have h : GroupsSplit cands.size [List.range cands.size] := ⟨by simp, by simpa using hzero⟩
    exact splitsRange_ofGroups cands h
  · exact splitsRange_mutualComponents cands g

/-- At either end of the consolidation a partition reads no edge of the graph. -/
theorem partition_eq_of_forces {t : Tuning}
    (h : (t.forcesSingletons || t.forcesSingleComponent) = true) (cands : CandidateSet)
    (g g' : NeighborGraph) : partition cands g t = partition cands g' t := by
  unfold partition
  rcases Bool.or_eq_true_iff.1 h with h | h <;> simp [h]

end TagAtlas
