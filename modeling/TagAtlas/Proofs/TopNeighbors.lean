import TagAtlas.Proofs.NeighborGraph
/-! The neighbour lists of a built graph. Building gives each tag, in edge order, the other end
of every edge at it that stays inside the tag range and is not a loop; it then sorts that list
strongest first and keeps the first `k`. Over edges that join distinct pairs of tags the order
is strict, so each list is the top `k` of the tag's neighbours, every neighbour left out is
weaker than every one kept, and the graph does not depend on the order of the edges. Main
statement: `build_spec`. -/
namespace TagAtlas

namespace Neighbor

/-- `x` is strictly stronger than `y`: a higher score in the total order of doubles, then more
co-occurrence, then the smaller index. -/
def Stronger (x y : Neighbor) : Prop :=
  totalKey y.npmi < totalKey x.npmi ∨ totalKey x.npmi = totalKey y.npmi ∧
    (y.cooccurrence < x.cooccurrence ∨ x.cooccurrence = y.cooccurrence ∧ x.tag < y.tag)

theorem Stronger.asymm {x y : Neighbor} (hxy : x.Stronger y) (hyx : y.Stronger x) : False := by
  unfold Stronger at hxy hyx
  omega

theorem strongerEq_trans (x y z : Neighbor) (hxy : strongerEq x y) (hyz : strongerEq y z) :
    strongerEq x z := by
  simp only [strongerEq, Bool.or_eq_true, Bool.and_eq_true, decide_eq_true_eq, beq_iff_eq] at *
  omega

theorem strongerEq_total (x y : Neighbor) : strongerEq x y || strongerEq y x := by
  simp only [strongerEq, Bool.or_eq_true, Bool.and_eq_true, decide_eq_true_eq, beq_iff_eq]
  omega

/-- Between neighbours of different tags the comparison is strict. -/
theorem stronger_of_strongerEq {x y : Neighbor} (h : strongerEq x y) (hne : x.tag ≠ y.tag) :
    x.Stronger y := by
  simp only [strongerEq, Bool.or_eq_true, Bool.and_eq_true, decide_eq_true_eq, beq_iff_eq] at h
  unfold Stronger
  omega

/-- Sorting neighbours of distinct tags orders them strictly, strongest first. -/
theorem pairwise_stronger_mergeSort {l : List Neighbor} (hl : (l.map Neighbor.tag).Nodup) :
    (l.mergeSort strongerEq).Pairwise Stronger := by
  have hnodup : ((l.mergeSort strongerEq).map Neighbor.tag).Nodup :=
    ((List.mergeSort_perm l strongerEq).map _).nodup_iff.2 hl
  refine ((List.pairwise_mergeSort strongerEq_trans strongerEq_total l).and
    (List.pairwise_map.1 hnodup)).imp fun ⟨hle, hne⟩ => stronger_of_strongerEq hle hne

end Neighbor

namespace NeighborGraph

variable {n : Nat}

/-- The neighbour an edge gives tag `t` in a graph of `n` tags: its other end, with its score
and co-occurrence, unless the edge leaves the tag range, is a loop or misses `t`. -/
def edgeNeighbor (n t : Nat) (e : Edge) : Option Neighbor :=
  if e.a < n ∧ e.b < n ∧ e.a ≠ e.b then
    if e.a = t then some ⟨e.b, e.npmi, e.cooccurrence⟩
    else if e.b = t then some ⟨e.a, e.npmi, e.cooccurrence⟩ else none
  else none

/-- The neighbours the edges give tag `t`, in edge order. -/
def incident (n : Nat) (edges : List Edge) (t : Nat) : List Neighbor :=
  edges.filterMap (edgeNeighbor n t)

/-- `nb` is what an input edge at `t`, inside the tag range and not a loop, gives `t`. -/
def InputNeighbor (n : Nat) (edges : List Edge) (t : Nat) (nb : Neighbor) : Prop :=
  ∃ e ∈ edges, e.a < n ∧ e.b < n ∧ e.a ≠ e.b ∧
    (e.a = t ∧ nb = ⟨e.b, e.npmi, e.cooccurrence⟩ ∨ e.b = t ∧ nb = ⟨e.a, e.npmi, e.cooccurrence⟩)

/-- The number of input edges at `t` inside the tag range that are not loops. -/
def degree (n : Nat) (edges : List Edge) (t : Nat) : Nat :=
  edges.countP fun e => e.a < n ∧ e.b < n ∧ e.a ≠ e.b ∧ (e.a = t ∨ e.b = t)

section Edge

variable {t : Nat} {e : Edge} {nb : Neighbor}

theorem edgeNeighbor_eq_some : edgeNeighbor n t e = some nb ↔ e.a < n ∧ e.b < n ∧ e.a ≠ e.b ∧
    (e.a = t ∧ nb = ⟨e.b, e.npmi, e.cooccurrence⟩ ∨ e.b = t ∧ nb = ⟨e.a, e.npmi, e.cooccurrence⟩) := by
  unfold edgeNeighbor
  split_ifs with hin hat hbt
  · -- the edge starts at `t`, so it cannot also end there
    grind
  · grind
  · grind
  · grind

theorem isSome_edgeNeighbor :
    (edgeNeighbor n t e).isSome ↔ e.a < n ∧ e.b < n ∧ e.a ≠ e.b ∧ (e.a = t ∨ e.b = t) := by
  unfold edgeNeighbor
  split_ifs with hin hat hbt
  · simp only [Option.isSome_some, true_iff]; omega
  · simp only [Option.isSome_some, true_iff]; omega
  · simp only [Option.isSome_none, Bool.false_eq_true, false_iff]; omega
  · simp only [Option.isSome_none, Bool.false_eq_true, false_iff]; omega

/-- An edge gives `t` the other end of the pair it joins. -/
theorem sym2_of_edgeNeighbor (h : edgeNeighbor n t e = some nb) : s(e.a, e.b) = s(t, nb.tag) := by
  obtain ⟨-, -, -, ⟨rfl, rfl⟩ | ⟨rfl, rfl⟩⟩ := edgeNeighbor_eq_some.1 h
  · rfl
  · exact Sym2.eq_swap

theorem edgeNeighbor_of_le (ht : n ≤ t) : edgeNeighbor n t e = none :=
  Option.not_isSome_iff_eq_none.1 fun h => by
    have := isSome_edgeNeighbor.1 h
    omega

theorem incident_cons (rest : List Edge) :
    incident n (e :: rest) t = (edgeNeighbor n t e).toList ++ incident n rest t := by
  unfold incident
  rw [List.filterMap_cons]
  cases edgeNeighbor n t e <;> rfl

end Edge

section Fold

variable {t : Nat} {lists : Array (List Neighbor)}

/-- Adding an edge appends to each list the neighbour the edge gives its tag. -/
theorem getElem?_addEdge (e : Edge) (t : Nat) :
    (addEdge n lists e)[t]? = lists[t]?.map (· ++ (edgeNeighbor n t e).toList) := by
  unfold addEdge edgeNeighbor
  split
  · rename_i hskip
    simp only [Bool.or_eq_true, decide_eq_true_eq, beq_iff_eq] at hskip
    rw [if_neg (by omega)]
    simp
  · rename_i hadd
    simp only [Bool.or_eq_true, decide_eq_true_eq, beq_iff_eq, not_or, not_le] at hadd
    obtain ⟨⟨ha, hb⟩, hab⟩ := hadd
    rw [if_pos ⟨ha, hb, hab⟩, Array.getElem?_modify, Array.getElem?_modify]
    -- at most one end of the edge is `t`
    split_ifs with hbt hat hat
    · exact absurd (hat.trans hbt.symm) hab
    · cases lists[t]? <;> simp
    · cases lists[t]? <;> simp
    · cases lists[t]? <;> simp

/-- Folding the edges in appends to each list the neighbours the edges give its tag. -/
theorem getElem?_foldl_addEdge (edges : List Edge) (t : Nat) :
    (edges.foldl (addEdge n) lists)[t]? = lists[t]?.map (· ++ incident n edges t) := by
  induction edges generalizing lists with
  | nil => simp [incident]
  | cons e rest ih =>
    rw [List.foldl_cons, ih, getElem?_addEdge, Option.map_map, incident_cons]
    congr 1
    funext l
    simp

end Fold

section Incident

variable {edges : List Edge} {t : Nat}

theorem mem_incident {nb : Neighbor} : nb ∈ incident n edges t ↔ InputNeighbor n edges t nb := by
  simp only [incident, List.mem_filterMap, edgeNeighbor_eq_some, InputNeighbor]

theorem length_incident : (incident n edges t).length = degree n edges t := by
  rw [incident, List.length_filterMap_eq_countP, degree]
  exact List.countP_congr fun e _ => by simpa using isSome_edgeNeighbor

/-- Over edges joining distinct pairs, a tag is given each other tag at most once: a second
edge giving it the same tag would join the same pair. -/
theorem nodup_incident_tags (h : (edges.map fun e => s(e.a, e.b)).Nodup) (t : Nat) :
    ((incident n edges t).map Neighbor.tag).Nodup := by
  induction edges with
  | nil => simp [incident]
  | cons e rest ih =>
    rw [List.map_cons, List.nodup_cons] at h
    rw [incident_cons]
    cases he : edgeNeighbor n t e with
    | none => simpa using ih h.2
    | some nb =>
      rw [Option.toList_some, List.singleton_append, List.map_cons]
      refine List.nodup_cons.2 ⟨fun hmem => h.1 ?_, ih h.2⟩
      obtain ⟨nb', hnb', htag⟩ := List.mem_map.1 hmem
      obtain ⟨f, hf, hfe⟩ := List.mem_filterMap.1 hnb'
      refine List.mem_map.2 ⟨f, hf, ?_⟩
      rw [sym2_of_edgeNeighbor hfe, sym2_of_edgeNeighbor he, htag]

end Incident

/-- The list of a tag in a built graph: the top `k` of what the edges give it. -/
theorem getElem?_lists_build (edges : List Edge) (k t : Nat) :
    (build n edges k).lists[t]? =
      if t < n then some (((incident n edges t).mergeSort Neighbor.strongerEq).take k) else none := by
  unfold build
  rw [Array.getElem?_map, getElem?_foldl_addEdge, Array.getElem?_replicate]
  split_ifs <;> simp

theorem neighbors_build (edges : List Edge) (k t : Nat) :
    (build n edges k).neighbors t = ((incident n edges t).mergeSort Neighbor.strongerEq).take k := by
  rw [neighbors, getElem?_lists_build]
  split_ifs with ht
  · rfl
  · -- past the tags no edge is kept
    have : incident n edges t = [] :=
      List.filterMap_eq_nil_iff.2 fun e _ => edgeNeighbor_of_le (Nat.le_of_not_lt ht)
    simp [this]

/-- In a list ordered by `r`, whatever `take` cuts off comes after everything it keeps. -/
theorem rel_of_mem_take_of_not_mem {α : Type} {r : α → α → Prop} {l : List α} (h : l.Pairwise r)
    {k : Nat} {x y : α} (hx : x ∈ l.take k) (hy : y ∈ l) (hy' : y ∉ l.take k) : r x y := by
  rw [← List.take_append_drop k l] at h hy
  exact (List.pairwise_append.1 h).2.2 x hx y ((List.mem_append.1 hy).resolve_left hy')

theorem foldl_add_range (f : Nat → Nat) (n : Nat) :
    (List.range n).foldl (fun acc t => acc + f t) 0 = ∑ t ∈ Finset.range n, f t := by
  induction n with
  | zero => rfl
  | succ n ih => rw [List.range_succ, List.foldl_append, ih, Finset.sum_range_succ, List.foldl_cons,
      List.foldl_nil]

theorem directedEdgeCount_build (edges : List Edge) (k : Nat) :
    (build n edges k).directedEdgeCount = ∑ t ∈ Finset.range n, min k (degree n edges t) := by
  have hlists : (build n edges k).lists.toList =
      (List.range n).map fun t => ((incident n edges t).mergeSort Neighbor.strongerEq).take k :=
    List.ext_getElem? fun t => by
      rw [Array.getElem?_toList, getElem?_lists_build, List.getElem?_map]
      by_cases ht : t < n
      · rw [if_pos ht, List.getElem?_range ht, Option.map_some]
      · rw [if_neg ht, List.getElem?_eq_none (by simpa using ht), Option.map_none]
  unfold directedEdgeCount
  rw [← Array.foldl_toList, hlists, List.foldl_map, ← foldl_add_range]
  simp only [List.length_take, List.length_mergeSort, length_incident]

/-- Over edges joining distinct pairs, the order of the edges does not matter: both orders
give each tag the same neighbours, which sort to one list. -/
theorem build_perm {edges edges' : List Edge} (h : (edges.map fun e => s(e.a, e.b)).Nodup)
    (hp : edges'.Perm edges) (k : Nat) : build n edges' k = build n edges k := by
  have h' : (edges'.map fun e => s(e.a, e.b)).Nodup := (hp.map _).nodup_iff.2 h
  have hsorted : ∀ t, (incident n edges' t).mergeSort Neighbor.strongerEq =
      (incident n edges t).mergeSort Neighbor.strongerEq := fun t =>
    List.Perm.eq_of_pairwise (fun _ _ _ _ hab hba => (hab.asymm hba).elim)
      (Neighbor.pairwise_stronger_mergeSort (nodup_incident_tags h' t))
      (Neighbor.pairwise_stronger_mergeSort (nodup_incident_tags h t))
      ((List.mergeSort_perm _ _).trans ((hp.filterMap _).trans (List.mergeSort_perm _ _).symm))
  have hlists : (build n edges' k).lists = (build n edges k).lists :=
    Array.ext_getElem? fun t => by rw [getElem?_lists_build, getElem?_lists_build, hsorted]
  exact congrArg NeighborGraph.mk hlists

theorem contains_iff {g : NeighborGraph} {t u : Nat} :
    g.contains t u = true ↔ u ∈ (g.neighbors t).map Neighbor.tag := by
  simp only [contains, List.any_eq_true, beq_iff_eq, List.mem_map]

/-- What a graph of `n` tags built from edges with lists of `k` promises. -/
structure BuildSpec (n : Nat) (edges : List Edge) (k : Nat) (g : NeighborGraph) : Prop where
  size_eq : g.size = n
  /-- Every listed neighbour is what an input edge at the tag gives it: another tag of the
  graph, with that edge's score and co-occurrence. -/
  input : ∀ t nb, nb ∈ g.neighbors t → InputNeighbor n edges t nb
  tags_nodup : ∀ t, ((g.neighbors t).map Neighbor.tag).Nodup
  sorted : ∀ t, (g.neighbors t).Pairwise Neighbor.Stronger
  length_eq : ∀ t, (g.neighbors t).length = min k (degree n edges t)
  /-- A neighbour left out is weaker than every one kept. -/
  top : ∀ t nb, InputNeighbor n edges t nb → nb ∉ g.neighbors t →
    ∀ x ∈ g.neighbors t, x.Stronger nb
  contains_iff : ∀ t u, g.contains t u = true ↔ u ∈ (g.neighbors t).map Neighbor.tag
  directedEdgeCount_eq : g.directedEdgeCount = ∑ t ∈ Finset.range n, min k (degree n edges t)
  perm : ∀ edges', edges'.Perm edges → build n edges' k = g

/-- Over edges joining distinct pairs of tags, every tag of a built graph lists, strictly
strongest first and each once, the top `k` of the other tags its in-range edges give it; the
graph counts those lists and does not depend on the order of the edges. -/
theorem build_spec (n : Nat) (edges : List Edge) (k : Nat)
    (h : (edges.map fun e => s(e.a, e.b)).Nodup) : BuildSpec n edges k (build n edges k) where
  size_eq := size_build edges k
  input t nb hnb := by
    rw [neighbors_build] at hnb
    exact mem_incident.1 (List.mem_mergeSort.1 (List.mem_of_mem_take hnb))
  tags_nodup t := by
    rw [neighbors_build]
    exact (((List.mergeSort_perm _ _).map _).nodup_iff.2 (nodup_incident_tags h t)).sublist
      ((List.take_sublist _ _).map _)
  sorted t := by
    rw [neighbors_build]
    exact (Neighbor.pairwise_stronger_mergeSort (nodup_incident_tags h t)).sublist
      (List.take_sublist _ _)
  length_eq t := by
    rw [neighbors_build, List.length_take, List.length_mergeSort, length_incident]
  top t nb hnb hout x hx := by
    rw [neighbors_build] at hout hx
    exact rel_of_mem_take_of_not_mem (Neighbor.pairwise_stronger_mergeSort (nodup_incident_tags h t))
      hx (List.mem_mergeSort.2 (mem_incident.2 hnb)) hout
  contains_iff _ _ := contains_iff
  directedEdgeCount_eq := directedEdgeCount_build edges k
  perm _ hp := build_perm h hp k

/-- Four edges at one tag, two of them tied on score, kept three at a time. -/
theorem build_spec_four_edges :
    ([(⟨0, 1, 10, 0.4⟩ : Edge), ⟨0, 2, 3, 0.9⟩, ⟨0, 3, 20, 0.4⟩, ⟨0, 4, 50, 0.1⟩].map
        fun e => s(e.a, e.b)).Nodup ∧
      BuildSpec 5 [⟨0, 1, 10, 0.4⟩, ⟨0, 2, 3, 0.9⟩, ⟨0, 3, 20, 0.4⟩, ⟨0, 4, 50, 0.1⟩] 3
        (build 5 [⟨0, 1, 10, 0.4⟩, ⟨0, 2, 3, 0.9⟩, ⟨0, 3, 20, 0.4⟩, ⟨0, 4, 50, 0.1⟩] 3) :=
  ⟨by decide, build_spec _ _ _ (by decide)⟩

end NeighborGraph

end TagAtlas
