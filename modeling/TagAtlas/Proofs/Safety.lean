import TagAtlas.Proofs.Association
import TagAtlas.Proofs.OverlapCover
import TagAtlas.Proofs.Tagsets
/-! A plan never takes an error branch. Dense indices come from the memberships, edges from
scoring the pairs counted from those memberships, and the graph is built over the candidates,
so every index a stage reads names a candidate, a component or a neighbour that is there:
scoring and the overlap cover succeed, and no pair count exceeds the number of items. -/
namespace TagAtlas

/-- The memberships of a snapshot have at most one entry per item. -/
theorem length_memberships_le (cands : CandidateSet) (s : Snapshot) :
    (cands.memberships s).length ≤ s.totalItems :=
  (List.length_filterMap_le _ _).trans_eq (Snapshot.totalItems_eq_length_itemTags s).symm

theorem edgesOf_memberships (s : Snapshot) (cands : CandidateSet) (t : Tuning) :
    edgesOf s cands (cands.memberships s) t =
      (PairCounts.count (cands.memberships s)).counts.filterMap (scoredEdge cands s.totalItems t) := by
  rw [edgesOf, scoreEdges_count_eq]

/-- What keeps every stage of a plan on its ok branch, and every index it reads in range. -/
structure PlanSafety (s : Snapshot) (st : Stages) : Prop where
  /-- Scoring the counted pairs succeeds, with the stage's edges. -/
  scores_ok : scoreEdges (PairCounts.count st.memberships) st.candidates s.totalItems st.tuning =
    .ok st.edges
  /-- The overlap cover over the mutual components succeeds. -/
  overlap_ok : ∃ sectors, overlapSectors s st.candidates st.graph st.tuning
    (mutualComponents st.candidates st.graph) = .ok sectors
  /-- Dense indices name candidates. -/
  memberships_lt : ∀ e ∈ st.memberships, ∀ j ∈ e.2, j < st.candidates.size
  /-- An edge joins two candidates, smaller index first, so the graph keeps it. -/
  edges_lt : ∀ e ∈ st.edges, e.a < e.b ∧ e.b < st.candidates.size
  /-- The graph has a list per candidate and lists other candidates only, so both ends of every
  union of mutual neighbours are candidates. -/
  graph_size : st.graph.size = st.candidates.size
  neighbors_lt : ∀ a, ∀ nb ∈ st.graph.neighbors a, nb.tag < st.candidates.size ∧ nb.tag ≠ a
  /-- Components list candidates only. -/
  partition_lt : ∀ C ∈ partition st.candidates st.graph st.tuning, ∀ j ∈ C.members,
    j < st.candidates.size
  mutual_lt : ∀ C ∈ mutualComponents st.candidates st.graph, ∀ j ∈ C.members,
    j < st.candidates.size
  /-- An owner read in assignment is at a candidate, so its weight is there, and names a kept
  component, so its score and item list are there. -/
  owners_lt : ∀ t c, (owners st.candidates.size st.kept)[t]?.getD none = some c →
    t < st.candidates.size ∧ c < st.kept.length
  /-- No pair count, and so no edge's co-occurrence, exceeds the number of items. -/
  counts_le : ∀ e ∈ (PairCounts.count st.memberships).counts, e.2 ≤ s.totalItems
  edges_le : ∀ e ∈ st.edges, e.cooccurrence ≤ s.totalItems

namespace Stages

variable (s : Snapshot) (p : Params)

theorem compute_edges :
    (compute s p).edges = (PairCounts.count (compute s p).memberships).counts.filterMap
      (scoredEdge (compute s p).candidates s.totalItems (compute s p).tuning) :=
  edgesOf_memberships _ _ _

/-- An edge of the stages is a counted pair with its count. -/
theorem mem_compute_edges {e : Edge} (he : e ∈ (compute s p).edges) :
    ((e.a, e.b), e.cooccurrence) ∈ (PairCounts.count (compute s p).memberships).counts := by
  rw [compute_edges, mem_edges] at he
  exact he.1

theorem compute_graph :
    (compute s p).graph =
      NeighborGraph.build (compute s p).candidates.size (compute s p).edges (compute s p).tuning.k :=
  rfl

end Stages

/-- Every plan, for every snapshot and every query, stays on the ok branch of every stage and
reads every index in range: dense indices, edge ends, neighbours and component members name
candidates, owners name kept components, and pair counts stay within the number of items. -/
theorem plan_safety (s : Snapshot) (p : Params) : PlanSafety s (Stages.compute s p) where
  scores_ok := by
    rw [Stages.compute_edges]
    exact scoreEdges_count_eq _ _
  overlap_ok := by
    rw [Stages.compute_graph]
    exact overlapSectors_ok (fun _ _ hnb => (NeighborGraph.mem_neighbors_build hnb).1)
      (NeighborGraph.size_build _ _) _
      fun C hC _ hj => (splitsRange_mutualComponents _ _).lt_of_mem hC hj
  memberships_lt _ he _ hj := CandidateSet.lt_size_of_mem_memberships he hj
  edges_lt _ he := key_of_mem_counts (Stages.mem_compute_edges s p he)
  graph_size := NeighborGraph.size_build _ _
  neighbors_lt _ _ hnb := NeighborGraph.mem_neighbors_build hnb
  partition_lt _ hC _ hj := (splitsRange_partition _ _ _).lt_of_mem hC hj
  mutual_lt _ hC _ hj := (splitsRange_mutualComponents _ _).lt_of_mem hC hj
  owners_lt t c h := by
    obtain ⟨C, hC, htC⟩ := owner_eq_some h
    exact ⟨Stages.lt_size_of_mem_kept (List.mem_of_getElem? hC) htC,
      (List.getElem?_eq_some_iff.1 hC).1⟩
  counts_le _ he := (PairCounts.count_le_length counts_sorted_of_memberships he).trans
    (length_memberships_le _ _)
  edges_le _ he := (PairCounts.count_le_length counts_sorted_of_memberships
    (Stages.mem_compute_edges s p he)).trans (length_memberships_le _ _)

end TagAtlas
