import TagAtlas.Proofs.Memberships
import TagAtlas.Proofs.NeighborGraph
import TagAtlas.Plan.Overlap
/-! The overlapping cover never fails. Its tag sets are built from seeds below the candidate
count, members of components, and neighbours and shared neighbours in the graph, so over a
graph whose neighbours are candidates every tag set names candidates only; then every
candidate it looks up is there, and reading the items of a tag set always succeeds. -/
namespace TagAtlas

/-- A monadic fold whose every step succeeds and keeps an invariant succeeds, and ends in the
invariant. -/
theorem foldlM_ok_of_invariant {ε α β : Type} {Inv : α → Prop} (f : α → β → Except ε α)
    (L : List β) {init : α} (hinit : Inv init)
    (hf : ∀ acc, Inv acc → ∀ b ∈ L, ∃ r, f acc b = .ok r ∧ Inv r) :
    ∃ r, L.foldlM f init = .ok r ∧ Inv r := by
  induction L generalizing init with
  | nil => exact ⟨init, rfl, hinit⟩
  | cons b rest ih =>
    obtain ⟨r, hr, hinv⟩ := hf init hinit b (List.mem_cons_self ..)
    rw [List.foldlM_cons, hr]
    exact ih hinv fun acc hacc b hb => hf acc hacc b (List.mem_cons_of_mem _ hb)

/-- A bind of a success that its continuation accepts succeeds. -/
theorem bind_ok {ε α β : Type} {x : Except ε α} {f : α → Except ε β} (hx : ∃ a, x = .ok a)
    (hf : ∀ a, x = .ok a → ∃ b, f a = .ok b) : ∃ b, x >>= f = .ok b := by
  obtain ⟨a, ha⟩ := hx
  obtain ⟨b, hb⟩ := hf a ha
  rw [ha]
  exact ⟨b, hb⟩

/-- Mapping with a step that always succeeds succeeds. -/
theorem mapM_ok {ε α β : Type} (f : α → Except ε β) {L : List α} (h : ∀ a ∈ L, ∃ b, f a = .ok b) :
    ∃ bs, L.mapM f = .ok bs := by
  induction L with
  | nil => exact ⟨[], rfl⟩
  | cons a rest ih =>
    obtain ⟨b, hb⟩ := h a (List.mem_cons_self ..)
    obtain ⟨bs, hbs⟩ := ih fun a' ha' => h a' (List.mem_cons_of_mem _ ha')
    rw [List.mapM_cons, hb]
    simp only [bind, Except.bind, hbs]
    exact ⟨_, rfl⟩

variable {s : Snapshot} {cands : CandidateSet}

theorem itemSets_ok {tagset : List Nat} (h : ∀ i ∈ tagset, i < cands.size) :
    ∃ r, itemSets s cands tagset = .ok r := by
  induction tagset with
  | nil => exact ⟨_, rfl⟩
  | cons i rest ih =>
    obtain ⟨r, hr⟩ := ih fun j hj => h j (List.mem_cons_of_mem _ hj)
    rw [itemSets, CandidateSet.fetch_of_lt (h i (List.mem_cons_self ..))]
    simp only [bind, Except.bind]
    split
    · exact ⟨_, rfl⟩
    · rw [hr]
      cases r <;> exact ⟨_, rfl⟩

/-- The items of a tag set of candidates are always read. -/
theorem intersection_ok {tagset : List Nat} (h : ∀ i ∈ tagset, i < cands.size) :
    ∃ items, intersection s cands tagset = .ok items := by
  obtain ⟨r, hr⟩ := itemSets_ok (s := s) h
  rw [intersection, hr]
  simp only [bind, Except.bind]
  split <;> exact ⟨_, rfl⟩

/-- The common items of a tag set of candidates are always counted. -/
theorem intersectionLen_ok {tagset : List Nat} (h : ∀ i ∈ tagset, i < cands.size) :
    ∃ n, intersectionLen s cands tagset = .ok n := by
  obtain ⟨r, hr⟩ := itemSets_ok (s := s) h
  rw [intersectionLen, hr]
  simp only [bind, Except.bind]
  split <;> exact ⟨_, rfl⟩

namespace Cover

/-- A cover whose tag sets name only the tags `0 … n-1`. -/
def Within (n : Nat) (c : Cover) : Prop := ∀ ts ∈ c.tagsets, ∀ i ∈ ts, i < n

theorem Within.push {n : Nat} {c : Cover} (h : c.Within n) (t : Tuning) {tagset : List Nat}
    (ht : ∀ i ∈ tagset, i < n) : (c.push t tagset).Within n := by
  unfold Cover.push
  dsimp only
  split
  · exact h
  · intro ts hts i hi
    rcases List.mem_append.1 hts with hts | hts
    · exact h ts hts i hi
    · rw [List.mem_singleton] at hts
      subst hts
      exact ht i (mem_collapse_mergeSort.1 hi)

end Cover

section Graph

variable {g : NeighborGraph} (hg : ∀ a, ∀ nb ∈ g.neighbors a, nb.tag < cands.size)
include hg

/-- A macro core lists its seed, neighbours of the seed and members of its component only. -/
theorem macroCore_lt (t : Tuning) {seed : Nat} (hseed : seed < cands.size) {comp : Component}
    (hcomp : ∀ j ∈ comp.members, j < cands.size) :
    ∀ x ∈ macroCore g t seed comp, x < cands.size := by
  unfold macroCore
  dsimp only
  refine List.foldlRecOn (motive := fun core : List Nat => ∀ x ∈ core, x < cands.size) _ _ ?_ ?_
  · refine List.foldlRecOn (motive := fun core : List Nat => ∀ x ∈ core, x < cands.size) _ _
      (List.forall_mem_singleton.2 hseed) fun core hcore nb hnb => ?_
    split_ifs
    · exact hcore
    · exact List.forall_mem_append.2 ⟨hcore, List.forall_mem_singleton.2 (hg seed nb hnb)⟩
    · exact hcore
  · intro core hcore m hm
    split_ifs
    · exact hcore
    · exact hcore
    · exact List.forall_mem_append.2 ⟨hcore, List.forall_mem_singleton.2 (hcomp m hm)⟩

theorem macroCores_within (t : Tuning) {comps : List Component}
    (hcomps : ∀ C ∈ comps, ∀ j ∈ C.members, j < cands.size) {cover : Cover}
    (hc : cover.Within cands.size) : (macroCores g t cands.size comps cover).Within cands.size := by
  unfold macroCores
  refine List.foldlRecOn (motive := Cover.Within cands.size) _ _ hc fun cover hcover seed hseed => ?_
  have hlt : seed < cands.size := by
    have := List.mem_range.1 hseed
    omega
  split
  · exact hcover
  · split
    · rename_i comp hfind
      exact hcover.push t (macroCore_lt hg t hlt (hcomps comp (List.mem_of_find?_eq_some hfind)))
    · exact hcover

/-- The edges a triad scan walks join tags of the graph. -/
theorem mem_triadEdges (hsize : g.size = cands.size) (t : Tuning) :
    ∀ e ∈ triadEdges g t, e.1 < cands.size ∧ e.2.1 < cands.size := by
  unfold triadEdges
  dsimp only
  intro e he
  replace he := List.mem_mergeSort.1 he
  revert e he
  refine List.foldlRecOn
    (motive := fun acc : List (Nat × Nat × Float × Nat) => ∀ e ∈ acc, e.1 < cands.size ∧ e.2.1 < cands.size)
    _ _ (by simp) fun acc hacc a ha => ?_
  have ha' : a < cands.size := hsize ▸ List.mem_range.1 ha
  refine List.foldlRecOn
    (motive := fun acc : List (Nat × Nat × Float × Nat) => ∀ e ∈ acc, e.1 < cands.size ∧ e.2.1 < cands.size)
    _ _ hacc fun acc hacc nb hnb => ?_
  have hnb' := hg a nb (List.mem_of_mem_take hnb)
  split_ifs
  · exact hacc
  · refine List.forall_mem_append.2 ⟨hacc, List.forall_mem_singleton.2 ?_⟩
    exact ⟨by simp only; omega, by simp only; omega⟩

/-- Looking for a triad on an edge of candidates succeeds, and a triad found names candidates. -/
theorem triadFor_ok (t : Tuning) (cover : Cover) {a b : Nat} (ha : a < cands.size)
    (hb : b < cands.size) :
    ∃ r, triadFor s cands g t cover a b = .ok r ∧ ∀ sig, r = some sig → ∀ x ∈ sig, x < cands.size := by
  unfold triadFor
  refine foldlM_ok_of_invariant _ _ (by simp) fun found hfound c hc => ?_
  obtain ⟨nb, hnb, rfl⟩ := NeighborGraph.exists_of_mem_sharedNeighbors hc
  have hsig : ∀ x ∈ [a, b, nb.tag].mergeSort (· ≤ ·), x < cands.size := by
    intro x hx
    simp only [List.mem_mergeSort, List.mem_cons, List.not_mem_nil, or_false] at hx
    rcases hx with rfl | rfl | rfl
    · exact ha
    · exact hb
    · exact hg a nb hnb
  dsimp only
  split
  · exact ⟨_, rfl, hfound⟩
  · split
    · exact ⟨none, rfl, by simp⟩
    · obtain ⟨common, hcommon⟩ := intersectionLen_ok (s := s) hsig
      rw [hcommon]
      refine ⟨_, rfl, fun sig hsig' => ?_⟩
      split_ifs at hsig'
      cases hsig'
      exact hsig

theorem triads_ok (hsize : g.size = cands.size) (t : Tuning) {cover : Cover}
    (hc : cover.Within cands.size) :
    ∃ c, triads s cands g t cover = .ok c ∧ c.Within cands.size := by
  unfold triads
  refine foldlM_ok_of_invariant _ _ hc fun cover hcover e he => ?_
  obtain ⟨a, b, _, _⟩ := e
  obtain ⟨ha, hb⟩ := mem_triadEdges hg hsize t _ he
  dsimp only
  split
  · exact ⟨cover, rfl, hcover⟩
  · obtain ⟨r, hr, hsig⟩ := triadFor_ok (s := s) hg t cover ha hb
    rw [hr]
    cases r with
    | none => exact ⟨cover, rfl, hcover⟩
    | some sig => exact ⟨_, rfl, hcover.push t (hsig sig rfl)⟩

/-- Over a graph of the candidates, with components of candidates, the overlap cover succeeds. -/
theorem overlapSectors_ok (hsize : g.size = cands.size) (t : Tuning) {comps : List Component}
    (hcomps : ∀ C ∈ comps, ∀ j ∈ C.members, j < cands.size) :
    ∃ sectors, overlapSectors s cands g t comps = .ok sectors := by
  have hempty : ({} : Cover).Within cands.size := by simp [Cover.Within]
  obtain ⟨cover, hcover, hwithin⟩ :=
    triads_ok (s := s) hg hsize t (macroCores_within hg t hcomps hempty)
  unfold overlapSectors
  dsimp only
  refine bind_ok ⟨cover, hcover⟩ fun c hc => ?_
  obtain rfl : c = cover := Except.ok.inj (hc.symm.trans hcover)
  refine bind_ok (mapM_ok _ fun ts hts => ?_) fun _ _ => ⟨_, rfl⟩
  obtain ⟨items, hitems⟩ := intersection_ok (s := s) (hwithin ts hts)
  refine bind_ok ⟨items, hitems⟩ fun items _ => ?_
  split
  · exact ⟨_, rfl⟩
  · refine bind_ok (mapM_ok _ fun i hi => ?_) fun _ _ => ⟨_, rfl⟩
    rw [CandidateSet.fetch_of_lt (hwithin ts hts i hi)]
    exact ⟨_, rfl⟩

end Graph

end TagAtlas
