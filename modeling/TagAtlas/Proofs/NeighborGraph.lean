import TagAtlas.Proofs.Canonical
import TagAtlas.Plan.Neighbors
/-! The neighbour graph. Building adds an edge to its two ends only when both are tags of the
graph and differ, so the graph has one list per tag and lists only other tags; an edge inside
the tag range between different tags is never skipped. -/
namespace TagAtlas

namespace NeighborGraph

variable {n : Nat}

/-- Neighbour lists, one per tag `0 … n-1`, each listing only other tags. -/
structure ListsIn (n : Nat) (lists : Array (List Neighbor)) : Prop where
  size_eq : lists.size = n
  lt : ∀ (a : Nat) (l : List Neighbor), lists[a]? = some l → ∀ nb ∈ l, nb.tag < n ∧ nb.tag ≠ a

/-- Adding an edge keeps the lists within the tags. -/
theorem ListsIn.addEdge {lists : Array (List Neighbor)} (h : ListsIn n lists) (e : Edge) :
    ListsIn n (NeighborGraph.addEdge n lists e) := by
  unfold NeighborGraph.addEdge
  split
  · exact h
  · rename_i hguard
    simp only [Bool.or_eq_true, decide_eq_true_eq, beq_iff_eq, not_or, not_le] at hguard
    obtain ⟨⟨ha, hb⟩, hab⟩ := hguard
    refine ⟨by simp [h.size_eq], fun a l hl nb hnb => ?_⟩
    rw [Array.getElem?_modify, Array.getElem?_modify] at hl
    split_ifs at hl with hbA hAa hAa
    · exact absurd (hAa.trans hbA.symm) hab
    · obtain ⟨l₀, hl₀, rfl⟩ := Option.map_eq_some_iff.1 hl
      rcases List.mem_append.1 hnb with hnb | hnb
      · exact h.lt a l₀ hl₀ nb hnb
      · rw [List.mem_singleton] at hnb
        subst hnb
        exact ⟨ha, hAa⟩
    · obtain ⟨l₀, hl₀, rfl⟩ := Option.map_eq_some_iff.1 hl
      rcases List.mem_append.1 hnb with hnb | hnb
      · exact h.lt a l₀ hl₀ nb hnb
      · rw [List.mem_singleton] at hnb
        subst hnb
        exact ⟨hb, fun h' => hab (hAa.trans h'.symm)⟩
    · exact h.lt a l hl nb hnb

theorem listsIn_fold (edges : List Edge) :
    ListsIn n (edges.foldl (addEdge n) (Array.replicate n [])) := by
  refine List.foldlRecOn (motive := ListsIn n) edges _ ⟨by simp, fun a l hl nb hnb => ?_⟩
    fun lists h e _ => h.addEdge e
  rw [Array.getElem?_replicate] at hl
  split_ifs at hl
  cases hl
  cases hnb

@[simp] theorem size_build (edges : List Edge) (k : Nat) : (build n edges k).size = n := by
  simp [build, size, (listsIn_fold edges).size_eq]

/-- Every neighbour of a tag in a built graph is another tag of the graph. -/
theorem mem_neighbors_build {edges : List Edge} {k a : Nat} {nb : Neighbor}
    (h : nb ∈ (build n edges k).neighbors a) : nb.tag < n ∧ nb.tag ≠ a := by
  unfold neighbors build at h
  rw [Array.getElem?_map] at h
  cases hl : (edges.foldl (addEdge n) (Array.replicate n []))[a]? with
  | none => simp [hl] at h
  | some l =>
    rw [hl, Option.map_some, Option.getD_some] at h
    exact (listsIn_fold edges).lt a l hl nb (List.mem_mergeSort.1 (List.mem_of_mem_take h))

/-- A shared neighbour of two tags is a neighbour of the first. -/
theorem exists_of_mem_sharedNeighbors {g : NeighborGraph} {a b c : Nat}
    (h : c ∈ g.sharedNeighbors a b) : ∃ nb ∈ g.neighbors a, nb.tag = c := by
  unfold sharedNeighbors at h
  obtain ⟨x, hx, rfl⟩ := List.mem_map.1 h
  obtain ⟨nb, hnb, hsome⟩ := List.mem_filterMap.1 (List.mem_mergeSort.1 hx)
  split at hsome
  · cases hsome
    exact ⟨nb, hnb, rfl⟩
  · cases hsome

end NeighborGraph

end TagAtlas
