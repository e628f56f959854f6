import TagAtlas.Proofs.Memberships
/-! Pair counts. Counting walks every ordered pair of positions in each membership list; on
ascending lists without repeats each unordered pair of indices that two lists share is met
once per list, so the count of a pair is the number of memberships that hold both of its
indices, and every stored key has its smaller index first. -/
namespace TagAtlas

theorem totalOrder_natPairLE : TotalOrder natPairLE := by
  refine ⟨?_, ?_, ?_⟩ <;> simp only [natPairLE, Bool.or_eq_true, Bool.and_eq_true,
    decide_eq_true_eq, beq_iff_eq, Prod.forall, Prod.mk.injEq] <;> omega

section OrderedPairs

variable {l : List Nat} (hl : l.Pairwise (· < ·))
include hl

/-- The ordered pairs of an ascending list are its pairs of members, smaller first. -/
theorem mem_orderedPairs_iff {a b : Nat} : (a, b) ∈ orderedPairs l ↔ a < b ∧ a ∈ l ∧ b ∈ l := by
  induction l with
  | nil => simp [orderedPairs]
  | cons x rest ih =>
    obtain ⟨hx, hrest⟩ := List.pairwise_cons.1 hl
    rw [orderedPairs, List.mem_append, ih hrest, List.mem_map]
    constructor
    · rintro (⟨y, hy, he⟩ | ⟨hab, ha, hb⟩)
      · cases he
        exact ⟨hx b hy, List.mem_cons_self .., List.mem_cons_of_mem _ hy⟩
      · exact ⟨hab, List.mem_cons_of_mem _ ha, List.mem_cons_of_mem _ hb⟩
    · rintro ⟨hab, ha, hb⟩
      rcases List.mem_cons.1 ha with rfl | ha'
      · rcases List.mem_cons.1 hb with rfl | hb'
        · omega
        · exact .inl ⟨b, hb', rfl⟩
      · rcases List.mem_cons.1 hb with rfl | hb'
        · -- `b` heads the list, so nothing after it is below it
          exact absurd (hx a ha') (by omega)
        · exact .inr ⟨hab, ha', hb'⟩

theorem nodup_orderedPairs : (orderedPairs l).Nodup := by
  induction l with
  | nil => simp [orderedPairs]
  | cons x rest ih =>
    obtain ⟨hx, hrest⟩ := List.pairwise_cons.1 hl
    rw [orderedPairs, List.nodup_append]
    refine ⟨hrest.nodup.map fun _ _ h => (Prod.mk.inj h).2, ih hrest, ?_⟩
    rintro p hp q hq rfl
    obtain ⟨y, -, rfl⟩ := List.mem_map.1 hp
    have := (mem_orderedPairs_iff hrest).1 hq
    exact lt_irrefl x (hx x this.2.1)

/-- On an ascending list each pair of its members is met once, smaller first. -/
theorem count_orderedPairs {a b : Nat} (hab : a < b) :
    (orderedPairs l).count (a, b) = if a ∈ l ∧ b ∈ l then 1 else 0 := by
  simp only [(nodup_orderedPairs hl).count, mem_orderedPairs_iff hl]
  simp [hab]

end OrderedPairs

/-- Run lengths of a sorted pair list: its distinct pairs strictly ascending, each with the
number of times it occurs. -/
structure Runs (l : List (Nat × Nat)) (runs : List ((Nat × Nat) × Nat)) : Prop where
  keys_sorted : (runs.map Prod.fst).Pairwise fun a b => natPairLE a b = true ∧ a ≠ b
  count_eq : ∀ e ∈ runs, e.2 = l.count e.1
  mem_iff : ∀ p, p ∈ l ↔ p ∈ runs.map Prod.fst

namespace Runs

variable {rest : List (Nat × Nat)}

/-- Another copy of the first key adds one to its run. -/
theorem cons_same {q : Nat × Nat} {n : Nat} {more : List ((Nat × Nat) × Nat)}
    (h : Runs rest ((q, n) :: more)) : Runs (q :: rest) ((q, n + 1) :: more) := by
  have hkeys := List.pairwise_cons.1 h.keys_sorted
  refine ⟨h.keys_sorted, ?_, ?_⟩
  · rintro e (_ | ⟨_, he⟩)
    · rw [List.count_cons_self, ← h.count_eq _ (List.mem_cons_self ..)]
    · have hne : e.1 ≠ q := fun heq => (hkeys.1 e.1 (List.mem_map_of_mem he)).2 heq.symm
      rw [List.count_cons_of_ne (Ne.symm hne), h.count_eq e (List.mem_cons_of_mem _ he)]
  · intro x
    rw [List.mem_cons, h.mem_iff]
    simp only [List.map_cons, List.mem_cons]
    constructor
    · rintro (rfl | hx) <;> simp_all
    · exact .inr

/-- A key below every key of the runs starts a run of its own. -/
theorem cons_new {p : Nat × Nat} {runs : List ((Nat × Nat) × Nat)} (h : Runs rest runs)
    (hp : ∀ k ∈ runs.map Prod.fst, natPairLE p k = true ∧ p ≠ k) :
    Runs (p :: rest) ((p, 1) :: runs) := by
  have hprest : p ∉ rest := fun hmem => (hp p ((h.mem_iff p).1 hmem)).2 rfl
  refine ⟨List.Pairwise.cons hp h.keys_sorted, ?_, ?_⟩
  · rintro e (_ | ⟨_, he⟩)
    · simp [List.count_eq_zero_of_not_mem hprest]
    · have hne : e.1 ≠ p := by
        rintro rfl
        exact hprest ((h.mem_iff _).2 (List.mem_map_of_mem he))
      rw [List.count_cons_of_ne (Ne.symm hne), h.count_eq e he]
  · intro x
    rw [List.mem_cons, h.mem_iff]
    simp

end Runs

theorem runs_runLengths :
    ∀ {l : List (Nat × Nat)}, l.Pairwise (fun a b => natPairLE a b = true) → Runs l (runLengths l)
  | [], _ => ⟨by simp [runLengths], by simp [runLengths], by simp [runLengths]⟩
  | p :: rest, h => by
    obtain ⟨hp, hrest⟩ := List.pairwise_cons.1 h
    have ih := runs_runLengths hrest
    rw [runLengths]
    split
    · rename_i q n more hR
      rw [hR] at ih
      by_cases hpq : p = q
      · subst hpq
        rw [if_pos (beq_self_eq_true p)]
        exact ih.cons_same
      · rw [if_neg (by simpa using hpq)]
        -- `p` is below `q`, and every later key is above `q`, so `p` is below them all
        have hq : q ∈ rest := (ih.mem_iff q).2 (List.mem_cons_self ..)
        have hkeys := List.pairwise_cons.1 ih.keys_sorted
        refine ih.cons_new fun k hk => ?_
        rcases List.mem_cons.1 hk with rfl | hk
        · exact ⟨hp k hq, hpq⟩
        · have hqk := hkeys.1 k hk
          refine ⟨totalOrder_natPairLE.trans _ _ _ (hp q hq) hqk.1, ?_⟩
          rintro rfl
          exact hqk.2 (totalOrder_natPairLE.antisymm _ _ hqk.1 (hp q hq))
    · rename_i hR
      rw [hR] at ih
      have hnil : rest = [] := List.eq_nil_iff_forall_not_mem.2 fun x hx => by
        simpa using (ih.mem_iff x).1 hx
      subst hnil
      exact ih.cons_new (by simp)

theorem Runs.lookup_getD {l : List (Nat × Nat)} {runs : List ((Nat × Nat) × Nat)} (h : Runs l runs)
    (p : Nat × Nat) : (runs.lookup p).getD 0 = l.count p := by
  by_cases hp : p ∈ l
  · obtain ⟨e, he, rfl⟩ := List.mem_map.1 ((h.mem_iff p).1 hp)
    have hnodup : (runs.map Prod.fst).Nodup := h.keys_sorted.imp fun hab => hab.2
    rw [lookup_eq_some_of_mem hnodup he, Option.getD_some, h.count_eq e he]
  · have hnone : runs.lookup p = none := by
      rw [List.lookup_eq_none_iff]
      intro e he
      rw [bne_iff_ne, ne_eq]
      rintro rfl
      exact hp ((h.mem_iff _).2 (List.mem_map_of_mem he))
    rw [hnone, Option.getD_none, List.count_eq_zero_of_not_mem hp]

namespace PairCounts

/-- The pairs a count walks: every ordered pair of positions of every membership list. -/
def walked (memberships : List (Int × List Nat)) : List (Nat × Nat) :=
  memberships.flatMap fun e => orderedPairs e.2

theorem runs_count (memberships : List (Int × List Nat)) :
    Runs ((walked memberships).mergeSort natPairLE) (count memberships).counts :=
  runs_runLengths (List.pairwise_mergeSort totalOrder_natPairLE.trans totalOrder_natPairLE.total _)

/-- A stored count is the number of times its key is walked. -/
theorem get_eq_count (memberships : List (Int × List Nat)) (a b : Nat) :
    (count memberships).get a b = (walked memberships).count (min a b, max a b) := by
  rw [get, (runs_count memberships).lookup_getD, (List.mergeSort_perm _ _).count_eq]

theorem mem_walked_of_mem_counts {memberships : List (Int × List Nat)} {e : (Nat × Nat) × Nat}
    (he : e ∈ (count memberships).counts) : e.1 ∈ walked memberships := by
  rw [← (List.mergeSort_perm _ natPairLE).mem_iff, (runs_count memberships).mem_iff]
  exact List.mem_map_of_mem he

variable {memberships : List (Int × List Nat)} (hsorted : ∀ e ∈ memberships, e.2.Pairwise (· < ·))
include hsorted

/-- Every walked pair, so every stored key, has its smaller index first and both indices in one
membership list. -/
theorem mem_walked {a b : Nat} (h : (a, b) ∈ walked memberships) :
    a < b ∧ ∃ e ∈ memberships, a ∈ e.2 ∧ b ∈ e.2 := by
  obtain ⟨e, he, hab⟩ := List.mem_flatMap.1 h
  obtain ⟨hlt, ha, hb⟩ := (mem_orderedPairs_iff (hsorted e he)).1 hab
  exact ⟨hlt, e, he, ha, hb⟩

theorem count_walked {a b : Nat} (hab : a < b) :
    (walked memberships).count (a, b) = memberships.countP fun e => a ∈ e.2 ∧ b ∈ e.2 := by
  induction memberships with
  | nil => rfl
  | cons e rest ih =>
    rw [walked, List.flatMap_cons, List.count_append, ← walked,
      ih fun e' he' => hsorted e' (List.mem_cons_of_mem _ he'),
      count_orderedPairs (hsorted e (List.mem_cons_self ..)) hab, List.countP_cons]
    simp only [decide_eq_true_eq]
    omega

/-- A pair is met at most once per membership, so no count exceeds the number of memberships. -/
theorem count_le_length {e : (Nat × Nat) × Nat} (he : e ∈ (count memberships).counts) :
    e.2 ≤ memberships.length := by
  obtain ⟨⟨a, b⟩, n⟩ := e
  have hab := (mem_walked hsorted (mem_walked_of_mem_counts he)).1
  rw [(runs_count memberships).count_eq _ he, (List.mergeSort_perm _ _).count_eq,
    count_walked hsorted hab]
  exact List.countP_le_length

/-- The count of two distinct indices is the number of memberships holding both. -/
theorem get_eq_countP {a b : Nat} (hab : a ≠ b) :
    (count memberships).get a b = memberships.countP fun e => a ∈ e.2 ∧ b ∈ e.2 := by
  rw [get_eq_count, count_walked hsorted (by omega)]
  rcases Nat.lt_or_gt_of_ne hab with h | h
  · simp [Nat.min_eq_left h.le, Nat.max_eq_right h.le]
  · simp [Nat.min_eq_right h.le, Nat.max_eq_left h.le, and_comm]

end PairCounts

end TagAtlas
