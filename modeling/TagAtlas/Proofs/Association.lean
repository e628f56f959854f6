import TagAtlas.Proofs.PairCounts
import TagAtlas.Proofs.FloatOrder
/-! Association of candidate tags. When every stored pair names two candidates, scoring never
fails and keeps, in key order, one edge for each stored pair with enough co-occurrence and a
defined score at least the threshold. The pairs counted from memberships always name
candidates, so on the counts of a snapshot scoring succeeds, and raising the least
co-occurrence or the threshold only drops edges. Main statement: `association_spec`, what the
memberships, pair counts and edges of every snapshot promise together. -/
namespace TagAtlas

/-- The edge a stored pair gives, if it has enough co-occurrence and a score at least the
threshold. -/
def scoredEdge (cands : CandidateSet) (total : Nat) (t : Tuning) (entry : (Nat × Nat) × Nat) :
    Option Edge :=
  if t.minPair ≤ entry.2 then
    (npmi entry.2 (cands.supportAt entry.1.1) (cands.supportAt entry.1.2) total).bind fun score =>
      if t.edgeThreshold ≤ score then some ⟨entry.1.1, entry.1.2, entry.2, score⟩ else none
  else none

theorem scoredEdge_eq_some {cands : CandidateSet} {total : Nat} {t : Tuning}
    {entry : (Nat × Nat) × Nat} {e : Edge} :
    scoredEdge cands total t entry = some e ↔ entry = ((e.a, e.b), e.cooccurrence) ∧
      t.minPair ≤ e.cooccurrence ∧
      npmi e.cooccurrence (cands.supportAt e.a) (cands.supportAt e.b) total = some e.npmi ∧
      t.edgeThreshold ≤ e.npmi := by
  obtain ⟨⟨a, b⟩, count⟩ := entry
  obtain ⟨a', b', count', score'⟩ := e
  simp only [scoredEdge, Prod.mk.injEq]
  split_ifs with hmin
  · cases hs : npmi count (cands.supportAt a) (cands.supportAt b) total with
    | none =>
      simp only [Option.bind_none, reduceCtorEq, false_iff, not_and]
      rintro ⟨⟨rfl, rfl⟩, rfl⟩ - hs'
      simp [hs] at hs'
    | some score =>
      simp only [Option.bind_some]
      split_ifs with hth
      · simp only [Option.some.injEq, Edge.mk.injEq]
        constructor
        · rintro ⟨rfl, rfl, rfl, rfl⟩
          exact ⟨⟨⟨rfl, rfl⟩, rfl⟩, hmin, hs, hth⟩
        · rintro ⟨⟨⟨rfl, rfl⟩, rfl⟩, -, hs', -⟩
          exact ⟨rfl, rfl, rfl, Option.some.inj (hs.symm.trans hs')⟩
      · simp only [false_iff, not_and]
        rintro ⟨⟨rfl, rfl⟩, rfl⟩ - hs' hth'
        rw [hs, Option.some.injEq] at hs'
        exact hth (hs' ▸ hth')
  · simp only [false_iff, not_and]
    rintro ⟨⟨rfl, rfl⟩, rfl⟩ hmin'
    exact absurd hmin' hmin

/-- A fold that pushes what each element gives onto an accumulator collects them in reverse. -/
theorem foldlM_push_eq {ε α β : Type} (g : List β → α → Except ε (List β)) (f : α → Option β)
    (l : List α) (hg : ∀ acc, ∀ x ∈ l, g acc x = .ok ((f x).toList ++ acc)) (acc : List β) :
    l.foldlM g acc = .ok ((l.filterMap f).reverse ++ acc) := by
  induction l generalizing acc with
  | nil => rfl
  | cons x rest ih =>
    rw [List.foldlM_cons, hg acc x (List.mem_cons_self ..)]
    simp only [bind, Except.bind]
    rw [ih (fun acc y hy => hg acc y (List.mem_cons_of_mem _ hy)), List.filterMap_cons]
    cases f x <;> simp

/-- Scoring pairs that all name candidates keeps, in order, the edges the pairs give. -/
theorem scoreEdges_eq {pairs : PairCounts} {cands : CandidateSet} {total : Nat} {t : Tuning}
    (hin : ∀ e ∈ pairs.counts, e.1.1 < cands.size ∧ e.1.2 < cands.size) :
    scoreEdges pairs cands total t = .ok (pairs.counts.filterMap (scoredEdge cands total t)) := by
  have hinside : (pairs.counts.any fun e => decide (e.2 ≥ t.minPair) &&
      (decide (e.1.1 ≥ cands.tags.size) || decide (e.1.2 ≥ cands.tags.size))) = false := by
    rw [List.any_eq_false]
    intro e he
    have := hin e he
    simp only [CandidateSet.size] at this
    simp only [Bool.and_eq_true, Bool.or_eq_true, decide_eq_true_eq, not_and, not_or, not_le]
    exact fun _ => this
  simp only [scoreEdges, hinside, Bool.false_eq_true, if_false]
  rw [foldlM_push_eq _ (scoredEdge cands total t) _ ?_ []]
  · simp [Except.map]
  · rintro acc ⟨⟨a, b⟩, count⟩ hx
    obtain ⟨ha, hb⟩ := hin _ hx
    simp only [ge_iff_le, scoredEdge]
    split_ifs with hmin
    · simp only [CandidateSet.fetch_of_lt ha, CandidateSet.fetch_of_lt hb,
        ← CandidateSet.supportAt_of_lt ha, ← CandidateSet.supportAt_of_lt hb, bind, Except.bind]
      cases npmi count (cands.supportAt a) (cands.supportAt b) total with
      | none => rfl
      | some score =>
        simp only [Option.bind_some]
        split_ifs <;> rfl
    · rfl

section Snapshot

variable {cands : CandidateSet} {s : Snapshot}

theorem counts_sorted_of_memberships :
    ∀ e ∈ cands.memberships s, e.2.Pairwise (· < ·) :=
  fun _ he => CandidateSet.pairwise_of_mem_memberships he

/-- Every stored key counted from memberships has its smaller index first, and both name
candidates. -/
theorem key_of_mem_counts {e : (Nat × Nat) × Nat}
    (he : e ∈ (PairCounts.count (cands.memberships s)).counts) :
    e.1.1 < e.1.2 ∧ e.1.2 < cands.size := by
  obtain ⟨hlt, m, hm, -, hb⟩ := PairCounts.mem_walked counts_sorted_of_memberships
    (PairCounts.mem_walked_of_mem_counts he)
  exact ⟨hlt, CandidateSet.lt_size_of_mem_memberships hm hb⟩

theorem scoreEdges_count_eq (total : Nat) (t : Tuning) :
    scoreEdges (PairCounts.count (cands.memberships s)) cands total t =
      .ok ((PairCounts.count (cands.memberships s)).counts.filterMap (scoredEdge cands total t)) :=
  scoreEdges_eq fun _ he => ⟨(key_of_mem_counts he).1.trans (key_of_mem_counts he).2,
    (key_of_mem_counts he).2⟩

end Snapshot

/-- Raising the least co-occurrence or the threshold only drops edges. -/
theorem scoredEdge_mono {cands : CandidateSet} {total : Nat} {t t' : Tuning}
    (hpair : t.minPair ≤ t'.minPair) (hth : t.edgeThreshold ≤ t'.edgeThreshold)
    {entry : (Nat × Nat) × Nat} {e : Edge} (h : scoredEdge cands total t' entry = some e) :
    scoredEdge cands total t entry = some e := by
  obtain ⟨rfl, hmin, hs, hscore⟩ := scoredEdge_eq_some.1 h
  exact scoredEdge_eq_some.2 ⟨rfl, hpair.trans hmin, hs, float_le_trans hth hscore⟩

/-- The edges counted from memberships are strictly ascending in their pair of ends. -/
theorem edges_sorted {cands : CandidateSet} {s : Snapshot} (total : Nat) (t : Tuning) :
    ((PairCounts.count (cands.memberships s)).counts.filterMap (scoredEdge cands total t)).Pairwise
      fun x y => x.a < y.a ∨ x.a = y.a ∧ x.b < y.b := by
  rw [List.pairwise_filterMap]
  have hkeys := (PairCounts.runs_count (cands.memberships s)).keys_sorted
  rw [List.pairwise_map] at hkeys
  refine hkeys.imp fun {x y} hxy ex hx ey hy => ?_
  obtain ⟨rfl, -⟩ := scoredEdge_eq_some.1 hx
  obtain ⟨rfl, -⟩ := scoredEdge_eq_some.1 hy
  simp only [natPairLE, Bool.or_eq_true, Bool.and_eq_true, decide_eq_true_eq, beq_iff_eq, ne_eq,
    Prod.mk.injEq] at hxy
  omega

theorem mem_edges {cands : CandidateSet} {counts : List ((Nat × Nat) × Nat)} {total : Nat}
    {t : Tuning} {e : Edge} :
    e ∈ counts.filterMap (scoredEdge cands total t) ↔ ((e.a, e.b), e.cooccurrence) ∈ counts ∧
      t.minPair ≤ e.cooccurrence ∧
      npmi e.cooccurrence (cands.supportAt e.a) (cands.supportAt e.b) total = some e.npmi ∧
      t.edgeThreshold ≤ e.npmi := by
  rw [List.mem_filterMap]
  constructor
  · rintro ⟨x, hx, he⟩
    obtain ⟨rfl, hrest⟩ := scoredEdge_eq_some.1 he
    exact ⟨hx, hrest⟩
  · rintro ⟨hx, hrest⟩
    exact ⟨_, hx, scoredEdge_eq_some.2 ⟨rfl, hrest⟩⟩

section Card

variable {cands : CandidateSet} {s : Snapshot} (hs : s.Valid) (hc : cands.Distinct)
include hs hc

/-- The memberships holding two candidate indices are those of the items carrying both tags. -/
theorem countP_memberships {i j : Nat} (hi : i < cands.size) (hj : j < cands.size) :
    (cands.memberships s).countP (fun e => i ∈ e.2 ∧ j ∈ e.2) =
      (((s.itemsWith (cands.tagAt i)).getD []).toFinset ∩
        ((s.itemsWith (cands.tagAt j)).getD []).toFinset).card := by
  set m := cands.memberships s
  have hnodup : ((m.filter fun e => i ∈ e.2 ∧ j ∈ e.2).map Prod.fst).Nodup :=
    ((CandidateSet.memberships_items_sorted hs).sublist
      (List.filter_sublist.map Prod.fst)).nodup
  rw [List.countP_eq_length_filter, ← List.length_map Prod.fst, ← List.toFinset_card_of_nodup hnodup]
  congr 1
  ext x
  have htag : ∀ {k} (hk : k < cands.size) {dense}, (x, dense) ∈ m →
      (k ∈ dense ↔ cands.tagAt k ∈ s.tagsOf x) := by
    intro k hk dense hx
    rw [((CandidateSet.mem_memberships_iff hs hc).1 hx).2.2 k, CandidateSet.tagAt_of_lt hk,
      Array.getElem?_eq_getElem hk]
    simp
  simp only [List.mem_toFinset, List.mem_map, List.mem_filter, decide_eq_true_eq, Finset.mem_inter,
    hs.mem_itemsWith]
  constructor
  · rintro ⟨⟨x', dense⟩, ⟨hx, hdi, hdj⟩, rfl⟩
    exact ⟨(htag hi hx).1 hdi, (htag hj hx).1 hdj⟩
  · rintro ⟨hti, htj⟩
    have hx : (x, cands.denseIndices (s.tagsOf x)) ∈ m := by
      have hmem : i ∈ cands.denseIndices (s.tagsOf x) := by
        rw [CandidateSet.mem_denseIndices_iff hc, Array.getElem?_eq_getElem hi]
        exact ⟨_, rfl, CandidateSet.tagAt_of_lt hi ▸ hti⟩
      exact (CandidateSet.mem_memberships_iff hs hc).2 ⟨List.ne_nil_of_mem hmem,
        CandidateSet.pairwise_denseIndices _, fun k => CandidateSet.mem_denseIndices_iff hc⟩
    exact ⟨_, ⟨hx, (htag hi hx).2 hti, (htag hj hx).2 htj⟩, rfl⟩

end Card

/-- What the memberships, pair counts and edges of a snapshot promise, for candidates `cands`
and thresholds `t`. -/
structure AssociationSpec (s : Snapshot) (cands : CandidateSet) (t : Tuning) : Prop where
  /-- Items are listed in strictly ascending order. -/
  items_sorted : ((cands.memberships s).map Prod.fst).Pairwise (· < ·)
  /-- An item is listed exactly when it carries a candidate tag, with the strictly ascending
  dense indices of its candidate tags. -/
  mem_memberships : ∀ item dense, (item, dense) ∈ cands.memberships s ↔ dense ≠ [] ∧
    dense.Pairwise (· < ·) ∧ ∀ j, j ∈ dense ↔ ∃ x, cands.tags[j]? = some x ∧ x.tag ∈ s.tagsOf item
  /-- The count of two distinct candidates, either way round, is the number of items that carry
  both tags. -/
  get_eq_card : ∀ i j, i < cands.size → j < cands.size → i ≠ j →
    (PairCounts.count (cands.memberships s)).get i j =
        (PairCounts.count (cands.memberships s)).get j i ∧
      (PairCounts.count (cands.memberships s)).get i j =
        (((s.itemsWith (cands.tagAt i)).getD []).toFinset ∩
          ((s.itemsWith (cands.tagAt j)).getD []).toFinset).card
  /-- Every stored key has its smaller index first. -/
  keys_ordered : ∀ e ∈ (PairCounts.count (cands.memberships s)).counts, e.1.1 < e.1.2
  /-- Scoring succeeds with the edges, strictly ascending in their ends, of exactly the stored
  pairs with enough co-occurrence and a defined score at least the threshold; raising the least
  co-occurrence or the threshold gives a sublist. -/
  edges : ∃ edges, scoreEdges (PairCounts.count (cands.memberships s)) cands s.totalItems t =
      .ok edges ∧
    edges.Pairwise (fun x y => x.a < y.a ∨ x.a = y.a ∧ x.b < y.b) ∧
    (∀ e, e ∈ edges ↔ ((e.a, e.b), e.cooccurrence) ∈ (PairCounts.count (cands.memberships s)).counts ∧
      t.minPair ≤ e.cooccurrence ∧
      npmi e.cooccurrence (cands.supportAt e.a) (cands.supportAt e.b) s.totalItems = some e.npmi ∧
      t.edgeThreshold ≤ e.npmi) ∧
    ∀ t' : Tuning, t.minPair ≤ t'.minPair → t.edgeThreshold ≤ t'.edgeThreshold →
      ∃ edges', scoreEdges (PairCounts.count (cands.memberships s)) cands s.totalItems t' =
        .ok edges' ∧ edges'.Sublist edges

/-- Memberships, pair counts and edges of every snapshot, for candidates with distinct tag ids:
memberships list the items with a candidate tag and their dense indices, a pair count is the
number of items carrying both tags, and scoring keeps exactly the pairs that pass both
thresholds, fewer as the thresholds rise. -/
theorem association_spec (rows : List Application) (cands : CandidateSet)
    (hc : (cands.tags.toList.map Candidate.tag).Nodup) (t : Tuning) :
    AssociationSpec (Snapshot.ofApplications rows) cands t := by
  have hs := Snapshot.valid_ofApplications rows
  have hsorted := @counts_sorted_of_memberships cands (Snapshot.ofApplications rows)
  refine ⟨CandidateSet.memberships_items_sorted hs, fun _ _ => CandidateSet.mem_memberships_iff hs hc,
    fun i j hi hj hij => ⟨?_, ?_⟩, fun e he => (key_of_mem_counts he).1, ?_⟩
  · rw [PairCounts.get, PairCounts.get, Nat.min_comm, Nat.max_comm]
  · rw [PairCounts.get_eq_countP hsorted hij, countP_memberships hs hc hi hj]
  · refine ⟨_, scoreEdges_count_eq _ t, edges_sorted _ t, fun e => mem_edges, fun t' hpair hth =>
      ⟨_, scoreEdges_count_eq _ t', filterMap_sublist_of_imp (fun _ _ => scoredEdge_mono hpair hth) _⟩⟩

/-- Two candidates listed out of id order, over items that share a tag. -/
theorem association_spec_two_candidates :
    ((⟨#[⟨20, 2⟩, ⟨10, 1⟩]⟩ : CandidateSet).tags.toList.map Candidate.tag).Nodup ∧
      AssociationSpec (Snapshot.ofApplications [.prediction 1 10, .prediction 1 20,
        .prediction 2 20, .prediction 3 30]) ⟨#[⟨20, 2⟩, ⟨10, 1⟩]⟩ (Tuning.derive 0.5 {}) :=
  ⟨by decide, association_spec _ _ (by decide) _⟩

end TagAtlas
