import TagAtlas.Proofs.Assignment
import TagAtlas.Proofs.FloatSign
import TagAtlas.Proofs.Memberships
/-! Where an item goes. Each dense index is owned by the last component that lists it, and an
item scores each owner of its tags with the weights of the tags that owner holds, repeats
counted, summed left to right from zero. The item goes to the owner with the highest score, the
lowest index among equal scores. Scores are sums of weights, so never not-a-number, and that
owner exists exactly when one of the item's tags has an owner, and is unique. The placement loop
shares one buffer of score slots among all items and clears it after each, so where an item goes
depends on its own tags only, and each component receives its items in membership order. -/
namespace TagAtlas

/-- The sum of doubles from left to right, starting from zero. -/
def leftSum (ws : List Float) : Float := ws.foldl (· + ·) 0.0

theorem nonnegFloat_foldl_add {ws : List Float} (h : ∀ w ∈ ws, NonnegFloat w) {acc : Float}
    (hacc : NonnegFloat acc) : NonnegFloat (ws.foldl (· + ·) acc) := by
  induction ws generalizing acc with
  | nil => exact hacc
  | cons w ws ih =>
    exact ih (fun v hv => h v (List.mem_cons_of_mem _ hv)) (hacc.add (h w List.mem_cons_self))

theorem nonnegFloat_leftSum {ws : List Float} (h : ∀ w ∈ ws, NonnegFloat w) :
    NonnegFloat (leftSum ws) := by
  have hzero : NonnegFloat 0.0 := by
    change unpackedNonneg (0.0 : Float).toModel.unpack = true
    decide
  exact nonnegFloat_foldl_add h hzero

section Spec

variable (cands : CandidateSet) (comps : List Component)

/-- The owner of a dense index: the last component that lists it; an index past the candidates
has none. -/
def ownerOf (t : Nat) : Option Nat :=
  if t < cands.size then (comps.zipIdx.filter fun e => t ∈ e.1.members).getLast?.map Prod.snd
  else none

/-- The owners of an item's tags, one for each tag that has one. -/
def ownersOf (tags : List Nat) : List Nat := tags.filterMap (ownerOf cands comps)

/-- The weights of the tags of an item that a component owns, in order, repeats kept. -/
def ownedWeights (tags : List Nat) (c : Nat) : List Float :=
  (tags.filter fun t => ownerOf cands comps t == some c).map fun t => tagWeight (cands.supportAt t)

/-- The score of a component for an item: its owned weights summed left to right. -/
def ownedScore (tags : List Nat) (c : Nat) : Float := leftSum (ownedWeights cands comps tags c)

/-- The component an item goes to: an owner of one of its tags whose score no other owner
beats, the lowest index among equal scores. -/
def BestOwner (tags : List Nat) (c : Nat) : Prop :=
  c ∈ ownersOf cands comps tags ∧ ∀ d ∈ ownersOf cands comps tags,
    ownedScore cands comps tags d ≤ ownedScore cands comps tags c ∧
      (d < c → ownedScore cands comps tags d < ownedScore cands comps tags c)

instance (tags : List Nat) : DecidablePred (BestOwner cands comps tags) := fun _ =>
  inferInstanceAs (Decidable (_ ∧ _))

end Spec

section Owners

variable {cands : CandidateSet} {comps : List Component}

theorem owners_getD (cands : CandidateSet) (comps : List Component) (t : Nat) :
    (owners cands.size comps)[t]?.getD none = ownerOf cands comps t := by
  unfold ownerOf
  split_ifs with ht
  · rw [getElem?_owners comps ht, Option.getD_some]
  · rw [Array.getElem?_eq_none (by rw [size_owners]; omega)]
    rfl

theorem lt_size_of_ownerOf {t c : Nat} (h : ownerOf cands comps t = some c) : t < cands.size := by
  unfold ownerOf at h
  split_ifs at h with ht
  exact ht

theorem lt_length_of_ownerOf {t c : Nat} (h : ownerOf cands comps t = some c) : c < comps.length := by
  rw [← owners_getD] at h
  exact owner_lt_length h

theorem weights_getD {t : Nat} (ht : t < cands.size) :
    cands.weights.getD t 0.0 = tagWeight (cands.supportAt t) := by
  rw [CandidateSet.supportAt_of_lt ht]
  simp [CandidateSet.weights, Array.getD, show t < cands.tags.size from ht]
  rfl

theorem mem_ownersOf {tags : List Nat} {c : Nat} :
    c ∈ ownersOf cands comps tags ↔ ∃ t ∈ tags, ownerOf cands comps t = some c :=
  List.mem_filterMap

/-- The slot of a component holds the component's owned score. -/
theorem slotSum_eq_ownedScore (tags : List Nat) (c : Nat) :
    slotSum (owners cands.size comps) cands.weights tags c = ownedScore cands comps tags c := by
  have hfilter : (tags.filter fun t => (owners cands.size comps)[t]?.getD none == some c) =
      tags.filter fun t => ownerOf cands comps t == some c := by
    simp only [owners_getD]
  rw [slotSum, ownedScore, ownedWeights, leftSum, hfilter]
  congr 1
  refine List.map_congr_left fun t ht => ?_
  have hown : ownerOf cands comps t = some c := by simpa using (List.mem_filter.1 ht).2
  exact weights_getD (lt_size_of_ownerOf hown)

theorem nonnegFloat_ownedScore (tags : List Nat) (c : Nat) :
    NonnegFloat (ownedScore cands comps tags c) :=
  nonnegFloat_leftSum fun w hw => by
    obtain ⟨t, -, rfl⟩ := List.mem_map.1 hw
    exact nonnegFloat_tagWeight _

end Owners

section Best

/-- Over scores that are numbers and indices that strictly increase, the scan ends at an index
whose score no other beats, and every lower index scores strictly less. -/
theorem scanBest_spec {f : Nat → Float} {b : Nat} {rest : List Nat}
    (hnum : ∀ p ∈ b :: rest, (f p).isNaN = false) (hsorted : (b :: rest).Pairwise (· < ·)) :
    ∀ p ∈ b :: rest, f p ≤ f (scanBest f b rest) ∧
      (p < scanBest f b rest → f p < f (scanBest f b rest)) := by
  induction rest generalizing b with
  | nil =>
    intro p hp
    rw [List.mem_singleton] at hp
    subst hp
    exact ⟨float_le_refl (hnum p List.mem_cons_self), fun h => absurd h (Nat.lt_irrefl _)⟩
  | cons c rest ih =>
    have hbc : b < c := List.rel_of_pairwise_cons hsorted List.mem_cons_self
    have hrest := List.Pairwise.of_cons hsorted
    have hnext : scanBest f b (c :: rest) = scanBest f (if f c > f b then c else b) rest := rfl
    by_cases hlt : f b < f c
    · have hbound := ih (b := c) (fun p hp => hnum p (List.mem_cons_of_mem _ hp)) hrest
      rw [hnext, if_pos hlt]
      intro p hp
      rcases List.mem_cons.1 hp with rfl | hp
      · have hb := float_lt_of_lt_of_le hlt (hbound c List.mem_cons_self).1
        exact ⟨float_le_of_lt hb, fun _ => hb⟩
      · exact hbound p hp
    · have hcb : f c ≤ f b := float_le_of_not_lt (hnum b List.mem_cons_self)
        (hnum c (List.mem_cons_of_mem _ List.mem_cons_self)) hlt
      have hbound := ih (b := b)
        (fun p hp => hnum p (by rcases List.mem_cons.1 hp with rfl | hp <;> simp [*]))
        (List.pairwise_cons.2 ⟨fun p hp => List.rel_of_pairwise_cons hsorted (List.mem_cons_of_mem _ hp),
          List.Pairwise.of_cons hrest⟩)
      rw [hnext, if_neg hlt]
      intro p hp
      rcases List.mem_cons.1 hp with rfl | hp
      · exact hbound p List.mem_cons_self
      rcases List.mem_cons.1 hp with rfl | hp
      · have hb := hbound b List.mem_cons_self
        refine ⟨float_le_trans hcb hb.1, fun hpr => float_lt_of_le_of_lt hcb (hb.2 (by omega))⟩
      · exact hbound p (List.mem_cons_of_mem _ hp)

/-- Over touched components, each once, whose slots are numbers, the best is a touched one
whose score no other touched one beats, every lower index scoring strictly less. -/
theorem ScoreBuffer.best_spec {buf : ScoreBuffer} (hnodup : buf.touched.Nodup)
    (hnum : ∀ d ∈ buf.touched, (buf.scores.getD d 0.0).isNaN = false) {c : Nat}
    (h : buf.best = some c) :
    c ∈ buf.touched ∧ ∀ d ∈ buf.touched, buf.scores.getD d 0.0 ≤ buf.scores.getD c 0.0 ∧
      (d < c → buf.scores.getD d 0.0 < buf.scores.getD c 0.0) := by
  refine ⟨ScoreBuffer.best_mem h, ?_⟩
  rw [ScoreBuffer.best_eq] at h
  have hperm := List.mergeSort_perm buf.touched fun a b => decide (a ≤ b)
  have hsorted := pairwise_lt_mergeSort hnodup
  split at h
  · cases h
  · rename_i first rest hsort
    cases h
    rw [hsort] at hperm hsorted
    have hbound := scanBest_spec (fun p hp => hnum p (hperm.subset hp)) hsorted
    exact fun d hd => hbound d (hperm.symm.subset hd)

end Best

section Placement

variable {cands : CandidateSet} {comps : List Component}

/-- Two best owners of one item are the same component. -/
theorem BestOwner.unique {tags : List Nat} {c d : Nat} (hc : BestOwner cands comps tags c)
    (hd : BestOwner cands comps tags d) : c = d := by
  rcases Nat.lt_trichotomy c d with hlt | heq | hgt
  · exact absurd (float_lt_of_lt_of_le ((hd.2 c hc.1).2 hlt) (hc.2 d hd.1).1) (float_lt_irrefl _)
  · exact heq
  · exact absurd (float_lt_of_lt_of_le ((hc.2 d hd.1).2 hgt) (hd.2 c hc.1).1) (float_lt_irrefl _)

/-- In a buffer the tags of an item left, the component the loop picks is the item's best
owner. -/
theorem Gathered.best_eq_some_iff {tags : List Nat} {buf : ScoreBuffer}
    (hg : Gathered (owners cands.size comps) cands.weights comps.length tags buf) {c : Nat} :
    buf.best = some c ↔ BestOwner cands comps tags c := by
  have htouched : ∀ d, d ∈ buf.touched ↔ d ∈ ownersOf cands comps tags := fun d => by
    rw [hg.mem_touched, mem_ownersOf]
    simp only [owners_getD]
  have hslot : ∀ d ∈ ownersOf cands comps tags,
      buf.scores.getD d 0.0 = ownedScore cands comps tags d := by
    intro d hd
    obtain ⟨t, -, ht⟩ := mem_ownersOf.1 hd
    rw [hg.score d (lt_length_of_ownerOf ht), slotSum_eq_ownedScore]
  have hnum : ∀ d ∈ buf.touched, (buf.scores.getD d 0.0).isNaN = false := fun d hd => by
    rw [hslot d ((htouched d).1 hd)]
    exact (nonnegFloat_ownedScore tags d).isNaN_eq_false
  have hbest : ∀ c, buf.best = some c → BestOwner cands comps tags c := by
    intro c h
    obtain ⟨hc, hbound⟩ := ScoreBuffer.best_spec hg.nodup hnum h
    have hc' := (htouched c).1 hc
    refine ⟨hc', fun d hd => ?_⟩
    rw [← hslot c hc', ← hslot d hd]
    exact hbound d ((htouched d).2 hd)
  refine ⟨hbest c, fun hc => ?_⟩
  have hne := List.ne_nil_of_mem ((htouched c).2 hc.1)
  obtain ⟨c', hc'⟩ := Option.isSome_iff_exists.1 (ScoreBuffer.best_isSome hne)
  rw [hc', (hbest c' hc').unique hc]

theorem best_gather_eq_some_iff {tags : List Nat} {c : Nat} :
    (ScoreBuffer.gather (owners cands.size comps) cands.weights comps.length tags).best = some c ↔
      BestOwner cands comps tags c :=
  (gathered_plan comps cands tags).best_eq_some_iff

theorem exists_bestOwner_iff {tags : List Nat} :
    (∃ c, BestOwner cands comps tags c) ↔ ∃ t ∈ tags, (ownerOf cands comps t).isSome := by
  constructor
  · rintro ⟨c, hc⟩
    obtain ⟨t, ht, hown⟩ := mem_ownersOf.1 hc.1
    exact ⟨t, ht, by simp [hown]⟩
  · rintro ⟨t, ht, hown⟩
    obtain ⟨d, hd⟩ := Option.isSome_iff_exists.1 hown
    have hmem := ((gathered_plan comps cands tags).mem_touched d).2
      ⟨t, ht, by rw [owners_getD, hd]⟩
    obtain ⟨c, hc⟩ := Option.isSome_iff_exists.1 (ScoreBuffer.best_isSome (List.ne_nil_of_mem hmem))
    exact ⟨c, best_gather_eq_some_iff.1 hc⟩

theorem placedIn_eq (memberships : List (Int × List Nat)) (c : Nat) :
    placedIn memberships comps cands c =
      (memberships.filter fun e => decide (BestOwner cands comps e.2 c)).map Prod.fst := by
  induction memberships with
  | nil => rfl
  | cons e rest ih =>
    obtain ⟨item, tags⟩ := e
    unfold placedIn at ih ⊢
    rw [placements, List.filterMap_cons]
    cases hbest : (ScoreBuffer.gather (owners cands.size comps) cands.weights comps.length
        tags).best with
    | none =>
      have hno : ¬BestOwner cands comps tags c := fun h => by
        rw [← best_gather_eq_some_iff, hbest] at h
        cases h
      simp only [hbest, Option.map_none, List.filter_cons, hno, decide_false, Bool.false_eq_true,
        if_false]
      exact ih
    | some d =>
      have hd := best_gather_eq_some_iff.1 hbest
      by_cases hdc : d = c
      · subst hdc
        simp only [hbest, Option.map_some, List.filter_cons, hd, decide_true, if_true,
          beq_self_eq_true, List.map_cons]
        exact congrArg (item :: ·) ih
      · have hno : ¬BestOwner cands comps tags c := fun h => hdc (hd.unique h)
        simp only [hbest, Option.map_some, List.filter_cons, hno, decide_false, Bool.false_eq_true,
          if_false, beq_iff_eq, hdc]
        exact ih

end Placement

/-- Placing items: the shared buffer of score slots is clear again after every run of the loop
over any memberships, so each component receives, in membership order, the items whose best
owner it is, the owner of their tags with the highest score, the lowest index among equal
scores, whatever items came before. An item has a best owner exactly when one of its tags has
an owner; that owner is unique and is one of the components. -/
theorem assignItems_spec (memberships : List (Int × List Nat)) (comps : List Component)
    (cands : CandidateSet) :
    assignItems memberships comps cands =
      (List.range comps.length).map (fun c =>
        (memberships.filter fun e => decide (BestOwner cands comps e.2 c)).map Prod.fst) ∧
    (∀ pre : List (Int × List Nat),
      (assignRun pre comps cands).buffer = ScoreBuffer.clear comps.length) ∧
    (∀ tags, (∃ c, BestOwner cands comps tags c) ↔ ∃ t ∈ tags, (ownerOf cands comps t).isSome) ∧
    (∀ tags c d, BestOwner cands comps tags c → BestOwner cands comps tags d → c = d) ∧
    (∀ tags c, BestOwner cands comps tags c → c < comps.length) := by
  refine ⟨?_, fun pre => ?_, fun _ => exists_bestOwner_iff, fun _ _ _ hc hd => hc.unique hd,
    fun tags c hc => ?_⟩
  · rw [assignItems_eq]
    exact List.map_congr_left fun c _ => placedIn_eq memberships c
  · rw [assignRun_eq]
  · obtain ⟨t, -, hown⟩ := mem_ownersOf.1 hc.1
    exact lt_length_of_ownerOf hown

end TagAtlas
