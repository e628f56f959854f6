import TagAtlas.Proofs.OverlapCover
/-! Macro cores. A component is searched by halving its member list, which finds a member exactly
when the list is sorted. A cover keeps its tag sets ascending, with two tags or more, distinct
and no more than its total, and adding a tag set keeps that shape. A macro core holds its seed
and members of the first component holding the seed only, and no more tags than the core size,
so every tag set the seeds add is such a core. -/
namespace TagAtlas

namespace Component

section Search

variable {tag : Nat} {arr : Array Nat}

/-- The search ends inside its window. -/
theorem narrow_mem (base size : Nat) (hsize : 0 < size) :
    base ≤ contains.narrow tag arr base size ∧ contains.narrow tag arr base size < base + size := by
  induction base, size using contains.narrow.induct tag arr with
  | case1 base size hle =>
    rw [contains.narrow, if_pos hle]
    omega
  | case2 base size hgt half mid ih =>
    rw [contains.narrow, if_neg hgt]
    dsimp only
    simp only [half, mid, dite_eq_ite] at ih
    -- the next window starts at the base or at the middle, and is the upper part of the old one
    by_cases hmid : arr.getD (base + size / 2) 0 > tag
    · rw [if_pos hmid] at ih ⊢
      have := ih (by omega)
      omega
    · rw [if_neg hmid] at ih ⊢
      have := ih (by omega)
      omega

/-- On an ascending array, a window holding `tag` narrows to a position of `tag`: an entry
above `tag` at the middle puts it in the lower half, and one at most `tag` leaves a copy of it
in the upper half. -/
theorem getD_narrow (hsorted : ∀ i j, i ≤ j → j < arr.size → arr.getD i 0 ≤ arr.getD j 0)
    (base size : Nat) (hwin : base + size ≤ arr.size)
    (hp : ∃ p, base ≤ p ∧ p < base + size ∧ arr.getD p 0 = tag) :
    arr.getD (contains.narrow tag arr base size) 0 = tag := by
  induction base, size using contains.narrow.induct tag arr with
  | case1 base size hle =>
    obtain ⟨p, hbp, hps, hpt⟩ := hp
    rw [contains.narrow, if_pos hle]
    obtain rfl : p = base := by omega
    exact hpt
  | case2 base size hgt half mid ih =>
    obtain ⟨p, hbp, hps, hpt⟩ := hp
    rw [contains.narrow, if_neg hgt]
    dsimp only
    simp only [half, mid, dite_eq_ite] at ih
    by_cases hmid : arr.getD (base + size / 2) 0 > tag
    · rw [if_pos hmid] at ih ⊢
      refine ih (by omega) ⟨p, hbp, ?_, hpt⟩
      by_contra hle
      have := hsorted (base + size / 2) p (by omega) (by omega)
      omega
    · rw [if_neg hmid] at ih ⊢
      refine ih (by omega) ?_
      by_cases hpm : base + size / 2 ≤ p
      · exact ⟨p, hpm, by omega, hpt⟩
      · -- `tag` lies below the middle entry, which is at most `tag`: the middle holds it too
        have := hsorted p (base + size / 2) (by omega) (by omega)
        exact ⟨base + size / 2, le_refl _, by omega, by omega⟩

end Search

theorem getD_toArray {l : List Nat} {i : Nat} (h : i < l.length) : l.toArray.getD i 0 = l[i] := by
  simp [Array.getD_eq_getD_getElem?, h]

/-- A member the search reports is a member. -/
theorem mem_of_contains {c : Component} {tag : Nat} (h : c.contains tag = true) :
    tag ∈ c.members := by
  unfold contains at h
  simp only [List.size_toArray] at h
  split at h
  · cases h
  · rename_i hne
    have hlt := (@narrow_mem tag c.members.toArray 0 c.members.length (Nat.pos_of_ne_zero hne)).2
    rw [beq_iff_eq, getD_toArray (by omega)] at h
    rw [← h]
    exact List.getElem_mem _

/-- On a sorted member list, the search finds exactly the members. -/
theorem contains_iff {c : Component} (hsorted : c.members.Pairwise (· ≤ ·)) {tag : Nat} :
    c.contains tag = true ↔ tag ∈ c.members := by
  refine ⟨mem_of_contains, fun hmem => ?_⟩
  obtain ⟨p, hp, rfl⟩ := List.getElem_of_mem hmem
  have hsorted' : ∀ i j, i ≤ j → j < c.members.toArray.size →
      c.members.toArray.getD i 0 ≤ c.members.toArray.getD j 0 := by
    intro i j hij hj
    simp only [List.size_toArray] at hj
    rw [getD_toArray (by omega), getD_toArray hj]
    rcases Nat.eq_or_lt_of_le hij with rfl | hlt
    · exact le_refl _
    · exact List.pairwise_iff_getElem.1 hsorted i j (by omega) hj hlt
  unfold contains
  dsimp only
  rw [if_neg (by simp only [List.size_toArray]; omega), beq_iff_eq]
  exact getD_narrow hsorted' 0 _ (by simp) ⟨p, Nat.zero_le _, by simpa using hp, getD_toArray hp⟩

/-- On sorted member lists, the first component the search finds a tag in is the first that
holds it. -/
theorem find?_contains_eq {comps : List Component}
    (hsorted : ∀ C ∈ comps, C.members.Pairwise (· ≤ ·)) (tag : Nat) :
    comps.find? (·.contains tag) = comps.find? fun C => tag ∈ C.members := by
  induction comps with
  | nil => rfl
  | cons C rest ih =>
    have hC := @contains_iff C (hsorted C List.mem_cons_self) tag
    rw [List.find?_cons, List.find?_cons, ih fun D hD => hsorted D (List.mem_cons_of_mem _ hD)]
    by_cases hmem : tag ∈ C.members
    · rw [hC.2 hmem, decide_eq_true hmem]
    · rw [Bool.eq_false_iff.2 (mt hC.1 hmem), decide_eq_false hmem]

end Component

section Signature

/-- Collapsing runs keeps a sublist. -/
theorem collapse_sublist {α : Type} [BEq α] (l : List α) : (collapse l).Sublist l := by
  fun_induction collapse l with
  | case1 => exact List.Sublist.slnil
  | case2 a => exact List.Sublist.refl _
  | case3 a b rest _ ih => exact ih.cons a
  | case4 a b rest _ ih => exact ih.cons_cons a

/-- The signature of a tag set, its tags sorted and each once, is strictly ascending. -/
theorem pairwise_lt_signature (l : List Nat) :
    (collapse (l.mergeSort (· ≤ ·))).Pairwise (· < ·) :=
  (pairwise_collapse_mergeSort totalOrder_le l).imp fun h => by
    have := h.2
    simp only [decide_eq_true_eq] at h
    omega

theorem length_signature_le (l : List Nat) : (collapse (l.mergeSort (· ≤ ·))).length ≤ l.length :=
  (collapse_sublist _).length_le.trans (List.length_mergeSort _).le

end Signature

namespace Cover

/-- A cover within the tags `0 … n-1` whose tag sets are strictly ascending, with two tags or
more, each of origin `P`, pairwise different, and no more than the total. -/
structure Good (n : Nat) (t : Tuning) (P : List Nat → Prop) (c : Cover) : Prop where
  sorted : ∀ ts ∈ c.tagsets, ts.Pairwise (· < ·)
  two_le : ∀ ts ∈ c.tagsets, 2 ≤ ts.length
  lt : ∀ ts ∈ c.tagsets, ∀ i ∈ ts, i < n
  origin : ∀ ts ∈ c.tagsets, P ts
  nodup : c.tagsets.Nodup
  length_le : c.tagsets.length ≤ t.maxSetsTotal

variable {n : Nat} {t : Tuning} {P : List Nat → Prop} {c : Cover}

theorem good_empty : ({} : Cover).Good n t P :=
  ⟨by simp, by simp, by simp, by simp, List.nodup_nil, by simp⟩

/-- Adding a tag set keeps a cover good when the tag set names tags of the cover and its
signature, if it is long enough to be added, has the origin the cover asks for. -/
theorem Good.push (h : c.Good n t P) {tagset : List Nat} (hlt : ∀ i ∈ tagset, i < n)
    (hP : 2 ≤ (collapse (tagset.mergeSort (· ≤ ·))).length →
      P (collapse (tagset.mergeSort (· ≤ ·)))) :
    (c.push t tagset).Good n t P := by
  unfold Cover.push isFull
  dsimp only
  split
  · exact h
  · rename_i hadd
    simp only [Bool.or_eq_true, decide_eq_true_eq, List.contains_iff_mem, not_or, not_lt,
      not_le] at hadd
    obtain ⟨⟨htwo, hfull⟩, hnew⟩ := hadd
    refine ⟨?_, ?_, ?_, ?_, ?_, ?_⟩
    · exact List.forall_mem_append.2 ⟨h.sorted, List.forall_mem_singleton.2 (pairwise_lt_signature _)⟩
    · exact List.forall_mem_append.2 ⟨h.two_le, List.forall_mem_singleton.2 htwo⟩
    · exact List.forall_mem_append.2 ⟨h.lt, List.forall_mem_singleton.2 fun i hi =>
        hlt i (mem_collapse_mergeSort.1 hi)⟩
    · exact List.forall_mem_append.2 ⟨h.origin, List.forall_mem_singleton.2 (hP htwo)⟩
    · exact h.nodup.append (List.nodup_singleton _) (List.disjoint_singleton.2 hnew)
    · rw [List.length_append, List.length_singleton]
      omega

end Cover

/-- A macro core: a seed among the first `min maxSeedCores n` tags, with at most `macroSize`
tags, all members of the first component that holds the seed. -/
def IsMacroCore (t : Tuning) (n : Nat) (comps : List Component) (ts : List Nat) : Prop :=
  ∃ seed comp, seed < min t.maxSeedCores n ∧ comps.find? (fun C => seed ∈ C.members) = some comp ∧
    seed ∈ ts ∧ ts.length ≤ t.macroSize ∧ ∀ x ∈ ts, x ∈ comp.members

/-- What a macro core keeps while it grows: its seed, members of its component only, and no
more tags than the core size allows (the seed alone when that is zero). -/
def CoreShape (t : Tuning) (seed : Nat) (comp : Component) (core : List Nat) : Prop :=
  seed ∈ core ∧ (∀ x ∈ core, x ∈ comp.members) ∧ core.length ≤ max 1 t.macroSize

/-- Both passes append one member of the component at a time, and only below the core size. -/
theorem CoreShape.append {t : Tuning} {seed : Nat} {comp : Component} {core : List Nat}
    (h : CoreShape t seed comp core) (hsize : ¬core.length ≥ t.macroSize) {m : Nat}
    (hm : m ∈ comp.members) : CoreShape t seed comp (core ++ [m]) := by
  obtain ⟨hin, hsub, hlen⟩ := h
  refine ⟨List.mem_append_left _ hin, List.forall_mem_append.2 ⟨hsub,
    List.forall_mem_singleton.2 hm⟩, ?_⟩
  rw [List.length_append, List.length_singleton]
  omega

/-- A macro core holds its seed and members of its component only, and no more tags than the
core size allows. -/
theorem macroCore_spec (g : NeighborGraph) (t : Tuning) {seed : Nat} {comp : Component}
    (hseed : seed ∈ comp.members) : CoreShape t seed comp (macroCore g t seed comp) := by
  unfold macroCore
  dsimp only
  -- the neighbour pass and the member pass both keep the shape of the seed alone
  refine List.foldlRecOn (motive := CoreShape t seed comp) _ _ ?_ fun core h m hm => ?_
  · refine List.foldlRecOn (motive := CoreShape t seed comp) _ _
      ⟨List.mem_singleton_self _, List.forall_mem_singleton.2 hseed, by simp⟩ fun core h nb _ => ?_
    split_ifs with hsize hadd
    · exact h
    · simp only [Bool.and_eq_true, Bool.not_eq_true'] at hadd
      exact h.append hsize (Component.mem_of_contains hadd.1.1)
    · exact h
  · split_ifs with hsize hdup
    · exact h
    · exact h
    · exact h.append hsize hm

/-- The seeds add macro cores only, within the tags, to a good cover. -/
theorem macroCores_good (g : NeighborGraph) (t : Tuning) {n : Nat} {comps : List Component}
    (hsorted : ∀ C ∈ comps, C.members.Pairwise (· ≤ ·)) (hlt : ∀ C ∈ comps, ∀ j ∈ C.members, j < n)
    {P : List Nat → Prop} (hP : ∀ ts, IsMacroCore t n comps ts → P ts) {cover : Cover}
    (hc : cover.Good n t P) : (macroCores g t n comps cover).Good n t P := by
  unfold macroCores
  refine List.foldlRecOn (motive := Cover.Good n t P) _ _ hc fun cover hcover seed hseed => ?_
  have hseed' : seed < min t.maxSeedCores n := List.mem_range.1 hseed
  split
  · exact hcover
  · split
    · rename_i comp hfind
      have hcomp : comp ∈ comps := List.mem_of_find?_eq_some hfind
      have hmem : seed ∈ comp.members := Component.mem_of_contains (by simpa using List.find?_some hfind)
      obtain ⟨hin, hsub, hlen⟩ := macroCore_spec g t hmem
      refine hcover.push (fun x hx => hlt comp hcomp x (hsub x hx)) fun htwo =>
        hP _ ⟨seed, comp, hseed', ?_, mem_collapse_mergeSort.2 hin, ?_,
          fun x hx => hsub x (mem_collapse_mergeSort.1 hx)⟩
      · rwa [← Component.find?_contains_eq hsorted]
      · have := length_signature_le (macroCore g t seed comp)
        omega
    · exact hcover

end TagAtlas
