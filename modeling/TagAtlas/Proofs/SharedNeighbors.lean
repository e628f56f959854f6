import TagAtlas.Proofs.TopNeighbors
/-! Shared neighbours. Over edges that join distinct pairs of tags, a tag of a built graph
lists each other tag at most once, with the score of the one edge joining the two; so looking a
shared neighbour up in the second list finds the score of its edge to the second tag. The
shared neighbours of two tags are then exactly the tags both list, other than the two, each
once, by the sum of the scores of their edges to the two descending in the total order of
doubles, and then by index ascending. Main statement: `sharedNeighbors_spec`. -/
namespace TagAtlas

/-- In a list whose images are distinct, the first element with the image of `x` is `x`. -/
theorem find?_eq_some_of_nodup_map {α β : Type} [BEq β] [LawfulBEq β] {f : α → β} {l : List α}
    (h : (l.map f).Nodup) {x : α} (hx : x ∈ l) : l.find? (fun y => f y == f x) = some x := by
  have hsome : (l.find? fun y => f y == f x).isSome :=
    List.find?_isSome.2 ⟨x, hx, beq_self_eq_true _⟩
  obtain ⟨y, hy⟩ := Option.isSome_iff_exists.1 hsome
  have hpy := List.find?_some hy
  have hfy : f y = f x := beq_iff_eq.1 hpy
  rw [hy, List.inj_on_of_nodup_map h (List.mem_of_find?_eq_some hy) hx hfy]

namespace NeighborGraph

/-- The score of the first edge joining two tags, in either orientation; zero when none does. -/
def pairScore (edges : List Edge) (a c : Nat) : Float :=
  ((edges.find? fun e => s(e.a, e.b) == s(a, c)).map Edge.npmi).getD 0.0

/-- The combined strength of `c` as a neighbour of both `a` and `b`: the sum of the scores of
its edges to the two, as a key in the total order of doubles. -/
def strength (edges : List Edge) (a b c : Nat) : Int :=
  totalKey (pairScore edges a c + pairScore edges b c)

/-- What the shared neighbours of `a` and `b` in a graph built from `edges` should be: each
tag once, exactly the tags other than the two that both list, strongest first and then by
index. -/
structure SharedSpec (edges : List Edge) (g : NeighborGraph) (a b : Nat) (shared : List Nat) :
    Prop where
  nodup : shared.Nodup
  mem_iff : ∀ c, c ∈ shared ↔ c ≠ a ∧ c ≠ b ∧ c ∈ (g.neighbors a).map Neighbor.tag ∧
    c ∈ (g.neighbors b).map Neighbor.tag
  sorted : shared.Pairwise fun c d =>
    strength edges a b d < strength edges a b c ∨
      strength edges a b c = strength edges a b d ∧ c < d

/-- The order of scored tags in a list of shared neighbours: score descending in the total
order of doubles, then index ascending. -/
def scoredLE (x y : Nat × Float) : Bool :=
  decide (totalKey x.2 > totalKey y.2) || totalKey x.2 == totalKey y.2 && decide (x.1 ≤ y.1)

theorem scoredLE_iff {x y : Nat × Float} :
    scoredLE x y ↔ totalKey y.2 < totalKey x.2 ∨ totalKey x.2 = totalKey y.2 ∧ x.1 ≤ y.1 := by
  simp only [scoredLE, Bool.or_eq_true, Bool.and_eq_true, decide_eq_true_eq, beq_iff_eq, gt_iff_lt]

/-- Sorting scored tags, each named once, orders their tags strictly by any key their scores
have, descending, and then by index. -/
theorem pairwise_fst_mergeSort {l : List (Nat × Float)} (hl : (l.map Prod.fst).Nodup)
    {key : Nat → Int} (hkey : ∀ x ∈ l, totalKey x.2 = key x.1) :
    ((l.mergeSort scoredLE).map Prod.fst).Pairwise
      fun c d => key d < key c ∨ key c = key d ∧ c < d := by
  have hsorted : (l.mergeSort scoredLE).Pairwise fun x y => scoredLE x y :=
    List.pairwise_mergeSort (fun x y z hxy hyz => by simp only [scoredLE_iff] at *; omega)
      (fun x y => by simp only [Bool.or_eq_true, scoredLE_iff]; omega) l
  have hdistinct : (l.mergeSort scoredLE).Pairwise fun x y => x.1 ≠ y.1 :=
    List.pairwise_map.1 (((List.mergeSort_perm l scoredLE).map Prod.fst).nodup_iff.2 hl)
  refine List.pairwise_map.2 ((hsorted.and hdistinct).imp_of_mem fun hx hy ⟨hxy, hne⟩ => ?_)
  rw [← hkey _ (List.mem_mergeSort.1 hx), ← hkey _ (List.mem_mergeSort.1 hy)]
  rw [scoredLE_iff] at hxy
  omega

section Shared

variable {g : NeighborGraph} {a b : Nat}

/-- The shared neighbours of two tags are the tags other than both that both list. -/
theorem mem_sharedNeighbors_iff {c : Nat} :
    c ∈ g.sharedNeighbors a b ↔ c ≠ a ∧ c ≠ b ∧ c ∈ (g.neighbors a).map Neighbor.tag ∧
      c ∈ (g.neighbors b).map Neighbor.tag := by
  unfold sharedNeighbors
  dsimp only
  simp only [List.mem_map, List.mem_mergeSort, List.mem_filterMap]
  constructor
  · rintro ⟨x, ⟨nb, hnb, hsome⟩, rfl⟩
    obtain ⟨hkeep, ⟨⟩⟩ := Option.ite_none_right_eq_some.1 hsome
    simp only [Bool.and_eq_true, bne_iff_ne, ne_eq] at hkeep
    exact ⟨hkeep.2, hkeep.1.1, ⟨nb, hnb, rfl⟩, List.mem_map.1 (contains_iff.1 hkeep.1.2)⟩
  · rintro ⟨hca, hcb, ⟨nb, hnb, rfl⟩, hin⟩
    have hkeep : (nb.tag != b && g.contains b nb.tag && nb.tag != a) = true := by
      simp only [Bool.and_eq_true, bne_iff_ne, ne_eq, contains_iff, List.mem_map]
      exact ⟨⟨hcb, hin⟩, hca⟩
    exact ⟨_, ⟨nb, hnb, if_pos hkeep⟩, rfl⟩

/-- Over a list of `a` naming each tag once, the shared neighbours are ordered by any key that
the combined score of each shared entry has, descending, and then by index. -/
theorem pairwise_sharedNeighbors (hnodup : ((g.neighbors a).map Neighbor.tag).Nodup)
    (key : Nat → Int)
    (hkey : ∀ nb ∈ g.neighbors a, nb.tag ∈ (g.neighbors b).map Neighbor.tag →
      totalKey (nb.npmi + (((g.neighbors b).find? (·.tag == nb.tag)).map Neighbor.npmi).getD 0.0) =
        key nb.tag) :
    (g.sharedNeighbors a b).Pairwise fun c d => key d < key c ∨ key c = key d ∧ c < d := by
  unfold sharedNeighbors
  dsimp only
  refine pairwise_fst_mergeSort ?_ fun x hx => ?_
  · -- scoring keeps each entry's tag, so the scored tags are distinct
    refine List.pairwise_map.2 ((List.pairwise_map.1 hnodup).filterMap _ fun n n' hne x hx y hy => ?_)
    obtain ⟨-, ⟨⟩⟩ := Option.ite_none_right_eq_some.1 hx
    obtain ⟨-, ⟨⟩⟩ := Option.ite_none_right_eq_some.1 hy
    exact hne
  · obtain ⟨nb, hnb, hsome⟩ := List.mem_filterMap.1 hx
    obtain ⟨hkeep, ⟨⟩⟩ := Option.ite_none_right_eq_some.1 hsome
    simp only [Bool.and_eq_true, contains_iff] at hkeep
    exact hkey nb hnb hkeep.1.2

end Shared

section Build

variable {n k : Nat} {edges : List Edge}

theorem nodup_neighbors_build (h : (edges.map fun e => s(e.a, e.b)).Nodup) (t : Nat) :
    (((build n edges k).neighbors t).map Neighbor.tag).Nodup := by
  rw [neighbors_build]
  exact (((List.mergeSort_perm _ _).map _).nodup_iff.2 (nodup_incident_tags h t)).sublist
    ((List.take_sublist _ _).map _)

/-- A listed neighbour carries the score of the edge joining it to the tag. -/
theorem npmi_eq_pairScore (h : (edges.map fun e => s(e.a, e.b)).Nodup) {t : Nat} {nb : Neighbor}
    (hnb : nb ∈ (build n edges k).neighbors t) : nb.npmi = pairScore edges t nb.tag := by
  rw [neighbors_build] at hnb
  obtain ⟨e, he, -, -, -, hend⟩ :=
    mem_incident.1 (List.mem_mergeSort.1 (List.mem_of_mem_take hnb))
  -- the edge that gave the neighbour joins the pair, and it is the only such edge
  have hjoin : s(e.a, e.b) = s(t, nb.tag) := by
    rcases hend with ⟨rfl, rfl⟩ | ⟨rfl, rfl⟩
    · rfl
    · exact Sym2.eq_swap
  have hfind : (edges.find? fun f => s(f.a, f.b) == s(t, nb.tag)) = some e := by
    rw [← hjoin]
    exact find?_eq_some_of_nodup_map h he
  rw [pairScore, hfind]
  rcases hend with ⟨-, rfl⟩ | ⟨-, rfl⟩ <;> rfl

/-- Looking a listed tag up in a list of the graph finds its entry, and so its edge's score. -/
theorem lookup_eq_pairScore (h : (edges.map fun e => s(e.a, e.b)).Nodup) {t : Nat} {nb : Neighbor}
    (hnb : nb ∈ (build n edges k).neighbors t) :
    ((((build n edges k).neighbors t).find? (·.tag == nb.tag)).map Neighbor.npmi).getD 0.0 =
      pairScore edges t nb.tag := by
  rw [find?_eq_some_of_nodup_map (nodup_neighbors_build h t) hnb, Option.map_some,
    Option.getD_some, npmi_eq_pairScore h hnb]

end Build

/-- Over edges joining distinct pairs of tags, the shared neighbours of any two tags of a built
graph are, each once, exactly the other tags both list, ordered by the sum of the scores of
their edges to the two, descending in the total order of doubles, and then by index. -/
theorem sharedNeighbors_spec (n : Nat) (edges : List Edge) (k : Nat)
    (h : (edges.map fun e => s(e.a, e.b)).Nodup) (a b : Nat) :
    SharedSpec edges (build n edges k) a b ((build n edges k).sharedNeighbors a b) := by
  have hkey : ∀ nb ∈ (build n edges k).neighbors a,
      nb.tag ∈ ((build n edges k).neighbors b).map Neighbor.tag →
      totalKey (nb.npmi + ((((build n edges k).neighbors b).find? (·.tag == nb.tag)).map
        Neighbor.npmi).getD 0.0) = strength edges a b nb.tag := by
    intro nb hnb hin
    obtain ⟨nb', hnb', htag⟩ := List.mem_map.1 hin
    rw [← htag, lookup_eq_pairScore h hnb', htag, npmi_eq_pairScore h hnb, strength]
  have hsorted := pairwise_sharedNeighbors (nodup_neighbors_build h a) (strength edges a b) hkey
  refine ⟨hsorted.imp fun {c d} hcd => ?_, fun c => mem_sharedNeighbors_iff, hsorted⟩
  rintro rfl
  omega

/-- Five edges over four tags: the two tags both neighbours of tags 0 and 1 are ranked by
their combined scores. -/
theorem sharedNeighbors_spec_five_edges :
    ([(⟨0, 1, 10, 0.8⟩ : Edge), ⟨0, 2, 10, 0.3⟩, ⟨1, 2, 10, 0.3⟩, ⟨0, 3, 10, 0.6⟩,
        ⟨1, 3, 10, 0.6⟩].map fun e => s(e.a, e.b)).Nodup ∧
      SharedSpec [⟨0, 1, 10, 0.8⟩, ⟨0, 2, 10, 0.3⟩, ⟨1, 2, 10, 0.3⟩, ⟨0, 3, 10, 0.6⟩, ⟨1, 3, 10, 0.6⟩]
        (build 4 [⟨0, 1, 10, 0.8⟩, ⟨0, 2, 10, 0.3⟩, ⟨1, 2, 10, 0.3⟩, ⟨0, 3, 10, 0.6⟩,
          ⟨1, 3, 10, 0.6⟩] 8) 0 1
        ((build 4 [⟨0, 1, 10, 0.8⟩, ⟨0, 2, 10, 0.3⟩, ⟨1, 2, 10, 0.3⟩, ⟨0, 3, 10, 0.6⟩,
          ⟨1, 3, 10, 0.6⟩] 8).sharedNeighbors 0 1) :=
  ⟨by decide, sharedNeighbors_spec _ _ _ (by decide) 0 1⟩

end NeighborGraph

end TagAtlas
