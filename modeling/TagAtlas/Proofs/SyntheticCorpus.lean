import TagAtlas.Corpus.Synthetic
import TagAtlas.Proofs.CorpusIndex
/-! The synthetic corpus. Whatever values a random source gives, as long as each size it draws
lies in the range asked for, the corpus of `n` items over `t` requested tags has the tags
`1 … max t 6` and the items `1 … n`, in order; every row names one of those items and one of
those tags; and every item has a row that counts, either one drawn from its cluster or the
fallback on the cluster's first tag, so the snapshot of the corpus has exactly `n` items. The
cluster of an item is never empty: its first tag lies below the tag count even for the last,
partial cluster. The keystream generator is such a source: its widening-multiply draws stay
below the span. Main statement: `syntheticFrom_shape`. -/
namespace TagAtlas

/-- The widening multiply `w · span` of a word `w < B` has its high part below the span, and
when its low part falls among the top `span` values the high part is at most `span - 2`, so the
carry of a second draw still leaves it below the span. -/
theorem widening_high_lt {B w span : Nat} (hw : w < B) (hspan : 0 < span) (hspanB : span ≤ B) :
    w * span / B < span ∧ (B - span < w * span % B → w * span / B + 1 < span) := by
  have hdiv := Nat.div_add_mod (w * span) B
  have hle : w * span ≤ (B - 1) * span := Nat.mul_le_mul_right span (by omega)
  constructor
  · exact Nat.div_lt_of_lt_mul (by nlinarith)
  · intro hlo
    by_contra hge
    -- a high part of `span - 1` or more leaves no room for a low part that high
    have hhigh : B * (span - 1) ≤ B * (w * span / B) := Nat.mul_le_mul_left B (by omega)
    have hsplit : (B - 1) * span + span = B * (span - 1) + B := by
      obtain ⟨b, rfl⟩ : ∃ b, B = b + 1 := ⟨B - 1, by omega⟩
      obtain ⟨s, rfl⟩ : ∃ s, span = s + 1 := ⟨span - 1, by omega⟩
      simp only [Nat.add_sub_cancel]
      ring
    omega

namespace Random

namespace ChaChaStream

theorem below32_lt (g : ChaChaStream) {span : Nat} (h0 : 0 < span) : (g.below32 span).1 < span := by
  have hpow : Nat.pow 2 32 = 2 ^ 32 := rfl
  unfold below32
  rcases g.nextWord with ⟨w, g₁⟩
  have hw := UInt32.toNat_lt w
  split
  · -- a span of the whole word or more takes the word as it is
    simp only
    omega
  · obtain ⟨hhi, hcarry⟩ := widening_high_lt hw h0 (by omega)
    simp only
    split
    · rcases g₁.nextWord with ⟨w', g₂⟩
      simp only
      split
      · exact hcarry (by omega)
      · exact hhi
    · exact hhi

theorem below64_lt (g : ChaChaStream) {span : Nat} (h0 : 0 < span) : (g.below64 span).1 < span := by
  have hpow : Nat.pow 2 64 = 2 ^ 64 := rfl
  unfold below64
  rcases g.nextWide with ⟨w, g₁⟩
  have hw := UInt64.toNat_lt w
  split
  · simp only
    omega
  · obtain ⟨hhi, hcarry⟩ := widening_high_lt hw h0 (by omega)
    simp only
    split
    · rcases g₁.nextWide with ⟨w', g₂⟩
      simp only
      split
      · exact hcarry (by omega)
      · exact hhi
    · exact hhi

/-- A size drawn in `[low, high)` lies there. -/
theorem size_mem (g : ChaChaStream) {low high : Nat} (h : low < high) :
    low ≤ (g.size low high).1 ∧ (g.size low high).1 < high := by
  unfold size
  split
  · have := g.below32_lt (Nat.sub_pos_of_lt h)
    simp only
    omega
  · have := g.below64_lt (Nat.sub_pos_of_lt h)
    simp only
    omega

end ChaChaStream

/-- A source whose sizes lie in the range asked for. -/
def Draws.SizesInRange {σ : Type} (D : Draws σ) : Prop :=
  ∀ g low high, low < high → low ≤ (D.size g low high).1 ∧ (D.size g low high).1 < high

theorem ChaChaStream.draws_sizesInRange : ChaChaStream.draws.SizesInRange :=
  fun g _ _ h => g.size_mem h

end Random

namespace Synthetic

variable {σ : Type} {D : Random.Draws σ}

/-- A row of item `item` on one of the tags `1 … tags`. -/
def Refers (item : Int) (tags : Nat) (row : Application) : Prop :=
  row.item = item ∧ 1 ≤ row.tag ∧ row.tag ≤ tags

/-- A drawn application is of its item and tag, and it counts: a prediction or a contributor
stands behind it. -/
theorem application_spec (g : σ) (item tag : Int) :
    (application D g item tag).1.item = item ∧ (application D g item tag).1.tag = tag ∧
      (application D g item tag).1.counts = true := by
  unfold application
  rcases D.chance g 0.1 with ⟨predicted, g₁⟩
  cases predicted
  · rcases D.int64Incl g₁ 1 50 with ⟨who, g₂⟩
    exact ⟨rfl, rfl, rfl⟩
  · exact ⟨rfl, rfl, rfl⟩

/-- The rows drawn from a cluster are of the item, on the cluster's tags, and when any was
drawn one of them counts. -/
theorem clusterRows_spec (g : σ) (item : Int) (indices : List Nat) :
    (∀ row ∈ (clusterRows D g item indices).1, row.item = item ∧ ∃ i ∈ indices, row.tag = i + 1) ∧
      ((clusterRows D g item indices).2.1 = true →
        ∃ row ∈ (clusterRows D g item indices).1, row.item = item ∧ row.counts = true) := by
  induction indices generalizing g with
  | nil => simp [clusterRows]
  | cons index rest ih =>
    unfold clusterRows
    rcases D.chance g 0.6 with ⟨hit, g₁⟩
    cases hit with
    | false =>
      obtain ⟨hrows, hassigned⟩ := ih g₁
      refine ⟨fun row hrow => ?_, hassigned⟩
      obtain ⟨hitem, i, hi, htag⟩ := hrows row hrow
      exact ⟨hitem, i, List.mem_cons_of_mem _ hi, htag⟩
    | true =>
      dsimp only
      rw [if_pos rfl]
      obtain ⟨hitem, htag, hcounts⟩ := application_spec (D := D) g₁ item (index + 1)
      obtain ⟨hrows, -⟩ := ih (application D g₁ item (index + 1)).2
      refine ⟨fun r hr => ?_, fun _ => ⟨_, List.mem_cons_self, hitem, hcounts⟩⟩
      rcases List.mem_cons.1 hr with rfl | hr
      · exact ⟨hitem, index, List.mem_cons_self, htag⟩
      · obtain ⟨hitem', i, hi, htag'⟩ := hrows r hr
        exact ⟨hitem', i, List.mem_cons_of_mem _ hi, htag'⟩

/-- An item's cluster rows name its cluster's tags, and one of them counts: a drawn row, or
the fallback on the cluster's first tag, which lies below the tag count. -/
theorem clusterPick_spec (g : σ) {tags cluster : Nat} (item : Int)
    (hfirst : cluster * clusterWidth < tags) :
    (∀ row ∈ (clusterPick D g tags cluster item).1, Refers item tags row) ∧
      ∃ row ∈ (clusterPick D g tags cluster item).1, row.item = item ∧ row.counts = true := by
  unfold clusterPick
  dsimp only
  have hidx : ∀ i ∈ List.range' (cluster * clusterWidth)
      (min (cluster * clusterWidth + clusterWidth) tags - cluster * clusterWidth), i < tags := by
    intro i hi
    rw [List.mem_range'_1] at hi
    omega
  generalize List.range' (cluster * clusterWidth)
    (min (cluster * clusterWidth + clusterWidth) tags - cluster * clusterWidth) = indices at hidx ⊢
  obtain ⟨hrows, hassigned⟩ := clusterRows_spec (D := D) g item indices
  have hdrawn : ∀ row ∈ (clusterRows D g item indices).1, Refers item tags row := by
    intro row hrow
    obtain ⟨hitem, i, hi, htag⟩ := hrows row hrow
    have := hidx i hi
    exact ⟨hitem, by omega, by omega⟩
  cases hpick : (clusterRows D g item indices).2.1 with
  | true =>
    rw [if_pos rfl]
    exact ⟨hdrawn, hassigned hpick⟩
  | false =>
    rw [if_neg Bool.false_ne_true]
    refine ⟨fun row hrow => ?_, ⟨_, List.mem_append_right _ (List.mem_singleton_self _),
      (application_spec _ _ _).1, (application_spec _ _ _).2.2⟩⟩
    rcases List.mem_append.1 hrow with hrow | hrow
    · exact hdrawn row hrow
    · rw [List.mem_singleton] at hrow
      subst hrow
      obtain ⟨hitem, htag, -⟩ := application_spec (D := D) _ item _
      exact ⟨hitem, by rw [htag]; omega, by rw [htag]; omega⟩

/-- An extra row, when drawn, is made from a tag index below the tag count. -/
theorem extraRow_spec (hD : D.SizesInRange) {tags : Nat} (htags : 0 < tags) {p : Float}
    {row : σ → Nat → Application × σ} {P : Application → Prop}
    (hrow : ∀ g i, i < tags → P (row g i).1) (g : σ) : ∀ r ∈ (extraRow D g p tags row).1, P r := by
  unfold extraRow
  rcases D.chance g p with ⟨hit, g₁⟩
  cases hit with
  | false => exact fun r hr => by cases hr
  | true =>
    dsimp only
    rw [if_pos rfl]
    intro r hr
    rw [Option.mem_def, Option.some.injEq] at hr
    subst hr
    exact hrow _ _ (hD g₁ 0 tags htags).2

/-- The rows of one item are of the item, on tags `1 … tags`, and one of them counts; its
record has the item's id. -/
theorem itemRows_spec (hD : D.SizesInRange) (g : σ) {tags clusters : Nat} (item : Int)
    (hclusters : 0 < clusters) (hfit : (clusters - 1) * clusterWidth < tags) :
    (∀ row ∈ (itemRows D g tags clusters item).1, Refers item tags row) ∧
      (∃ row ∈ (itemRows D g tags clusters item).1, row.item = item ∧ row.counts = true) ∧
      (itemRows D g tags clusters item).2.1.id = item := by
  have hfirst : (D.size g 0 clusters).1 * clusterWidth < tags := by
    have hcl := (hD g 0 clusters hclusters).2
    have := Nat.mul_le_mul_right clusterWidth (Nat.le_sub_one_of_lt hcl)
    omega
  have htags : 0 < tags := by omega
  obtain ⟨hpick, hcount⟩ := clusterPick_spec (D := D) (D.size g 0 clusters).2 item hfirst
  unfold itemRows
  dsimp only
  refine ⟨fun row hrow => ?_, ?_, rfl⟩
  · simp only [List.mem_append, Option.mem_toList] at hrow
    rcases hrow with (hrow | hrow) | hrow
    · exact hpick row hrow
    · refine extraRow_spec hD htags (fun g i hi => ?_) _ row hrow
      obtain ⟨hitem, htag, -⟩ := application_spec (D := D) g item (i + 1)
      exact ⟨hitem, by omega, by omega⟩
    · refine extraRow_spec hD htags (fun g i hi => ?_) _ row hrow
      exact ⟨rfl, by simp [Application.byContributor], by simp [Application.byContributor]; omega⟩
  · obtain ⟨row, hrow, h⟩ := hcount
    exact ⟨row, List.mem_append_left _ (List.mem_append_left _ hrow), h⟩

/-- The items `offset + 1 … offset + count` of the corpus: their records have those ids in
order, every row is of one of them and on a tag `1 … tags`, and each has a row that counts. -/
theorem items_spec (hD : D.SizesInRange) {tags clusters : Nat} (hclusters : 0 < clusters)
    (hfit : (clusters - 1) * clusterWidth < tags) (g : σ) (count offset : Nat) :
    (items D g tags clusters count offset).2.map ItemRecord.id =
        (List.range' (offset + 1) count).map (fun i : Nat => (i : Int)) ∧
      (∀ row ∈ (items D g tags clusters count offset).1,
        offset + 1 ≤ row.item ∧ row.item ≤ offset + count ∧ 1 ≤ row.tag ∧ row.tag ≤ tags) ∧
      ∀ i : Int, offset + 1 ≤ i → i ≤ offset + count →
        ∃ row ∈ (items D g tags clusters count offset).1, row.item = i ∧ row.counts = true := by
  induction count generalizing g offset with
  | zero =>
    refine ⟨rfl, (fun row hrow => by simp [items] at hrow), fun i hlo hhi => ?_⟩
    omega
  | succ count ih =>
    -- the first item's rows, then the rest of the items from where its draws left the source
    obtain ⟨hrefers, ⟨row, hrow, hcount⟩, hid⟩ :=
      itemRows_spec hD g ((offset : Int) + 1) hclusters hfit
    obtain ⟨hids, hrest, hcovered⟩ := ih (itemRows D g tags clusters ((offset : Int) + 1)).2.2
      (offset + 1)
    unfold items
    dsimp only
    refine ⟨?_, fun r hr => ?_, fun i hlo hhi => ?_⟩
    · rw [List.map_cons, hid, hids, List.range'_succ, List.map_cons]
      push_cast
      rfl
    · rcases List.mem_append.1 hr with hr | hr
      · obtain ⟨hitem, htag⟩ := hrefers r hr
        omega
      · have := hrest r hr
        omega
    · by_cases hfirst : i = offset + 1
      · subst hfirst
        exact ⟨row, List.mem_append_left _ hrow, hcount⟩
      · obtain ⟨r, hr, h⟩ := hcovered i (by omega) (by omega)
        exact ⟨r, List.mem_append_right _ hr, h⟩

end Synthetic

open Synthetic in
/-- What a synthetic corpus of `n` items over `t` requested tags should be. -/
structure SyntheticShape (n t : Nat) (d : Dataset) : Prop where
  tag_ids : d.tags.map TagRecord.id = (List.range' 1 (max t 6)).map fun i : Nat => (i : Int)
  item_ids : d.items.map ItemRecord.id = (List.range' 1 n).map fun i : Nat => (i : Int)
  refers : ∀ row ∈ d.applications, 1 ≤ row.item ∧ row.item ≤ n ∧ 1 ≤ row.tag ∧ row.tag ≤ max t 6
  covered : ∀ i : Int, 1 ≤ i → i ≤ n →
    ∃ row ∈ d.applications, row.item = i ∧ row.negative = false ∧ row.counts = true
  totalItems_eq : (Snapshot.ofApplications d.applications).totalItems = n

/-- Whatever a random source draws, as long as its sizes lie in the ranges asked for, the
synthetic corpus of `n` items over `t` requested tags has the tags `1 … max t 6` and the items
`1 … n` in order, every row is of one of those items and tags, every item has a non-negative
row that counts, and so the corpus's snapshot has `n` items. -/
theorem syntheticFrom_shape {σ : Type} (D : Random.Draws σ) (hD : D.SizesInRange) (g : σ)
    (n t : Nat) : SyntheticShape n t (Dataset.syntheticFrom D g n t) := by
  have hwidth : Synthetic.clusterWidth = 6 := rfl
  have hclusters : 0 < (max t 6 + 6 - 1) / 6 := by omega
  have hfit : ((max t 6 + 6 - 1) / 6 - 1) * 6 < max t 6 := by omega
  obtain ⟨hids, hrefers, hcovered⟩ := Synthetic.items_spec hD (hwidth ▸ hclusters)
    (hwidth ▸ hfit) g n 0
  have hcovered' : ∀ i : Int, 1 ≤ i → i ≤ n → ∃ row ∈ (Dataset.syntheticFrom D g n t).applications,
      row.item = i ∧ row.negative = false ∧ row.counts = true := by
    intro i hlo hhi
    obtain ⟨row, hrow, hitem, hcounts⟩ := hcovered i (by omega) (by omega)
    exact ⟨row, hrow, hitem, (Application.counts_eq_true_iff.1 hcounts).1, hcounts⟩
  have hrefers' : ∀ row ∈ (Dataset.syntheticFrom D g n t).applications,
      1 ≤ row.item ∧ row.item ≤ n ∧ 1 ≤ row.tag ∧ row.tag ≤ max t 6 := by
    intro row hrow
    have := hrefers row hrow
    simp only [hwidth] at this
    omega
  refine ⟨?_, hids.trans (by simp), hrefers', hcovered', ?_⟩
  · -- tag `index` has the id `index + 1`
    simp only [Dataset.syntheticFrom, List.map_map, hwidth, List.range'_eq_map_range]
    refine List.map_congr_left fun index _ => ?_
    simp only [Function.comp_apply, Synthetic.tagRecord]
    omega
  · -- the items some counted row names are exactly `1 … n`
    rw [totalItems_ofApplications]
    have hcarried : carriedItems (Dataset.syntheticFrom D g n t).applications = Finset.Icc 1 (n : Int) := by
      ext i
      rw [mem_carriedItems, Finset.mem_Icc]
      constructor
      · rintro ⟨tag, row, hrow, rfl, -⟩
        have := hrefers' row hrow
        omega
      · rintro ⟨hlo, hhi⟩
        obtain ⟨row, hrow, rfl, hneg, hcounts⟩ := hcovered' i hlo hhi
        exact ⟨row.tag, row, hrow, rfl, rfl, Application.counts_eq_true_iff.1 hcounts⟩
    rw [hcarried, Int.card_Icc]
    omega

/-- The keystream generator seeded with 9 draws sizes in range, and its corpus of 200 items
over 24 tags has every item tagged. -/
theorem syntheticFrom_shape_seeded :
    Random.ChaChaStream.draws.SizesInRange ∧ SyntheticShape 200 24 (Dataset.synthetic 200 24 9) :=
  ⟨Random.ChaChaStream.draws_sizesInRange,
    syntheticFrom_shape _ Random.ChaChaStream.draws_sizesInRange _ 200 24⟩

end TagAtlas
