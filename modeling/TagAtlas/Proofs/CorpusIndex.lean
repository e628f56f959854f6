import TagAtlas.Proofs.Memberships
/-! The two indexes of a snapshot. A snapshot built from rows holds an (item, tag) pair exactly
when some row names the pair, is not negative, and has a contributor or a prediction behind
it. Its item table and its tag sets hold the same pairs; the items are listed ascending, each
with its tags ascending and non-empty; a tag's items are distinct and non-empty; and its
support ranking lists every tag with items once, by support descending and then id ascending.
Main statement: `snapshot_index_spec`. -/
namespace TagAtlas

/-- Some row puts tag `t` on item `i`: the row is not negative, and a contributor or a
prediction stands behind it. -/
def Carries (rows : List Application) (i t : Int) : Prop :=
  ∃ r ∈ rows, r.item = i ∧ r.tag = t ∧ r.negative = false ∧ (r.contributor.isSome ∨ r.predicted)

theorem Application.counts_eq_true_iff {r : Application} :
    r.counts = true ↔ r.negative = false ∧ (r.contributor.isSome ∨ r.predicted) := by
  obtain ⟨item, tag, contributor, negative, predicted⟩ := r
  cases negative <;> cases contributor <;> cases predicted <;> simp [Application.counts]

theorem mem_countedPairs {rows : List Application} {i t : Int} :
    (i, t) ∈ countedPairs rows ↔ Carries rows i t := by
  simp only [countedPairs, List.mem_map, List.mem_filter, Prod.mk.injEq,
    Application.counts_eq_true_iff]
  constructor
  · rintro ⟨r, ⟨hr, hneg, hby⟩, rfl, rfl⟩
    exact ⟨r, hr, rfl, rfl, hneg, hby⟩
  · rintro ⟨r, hr, rfl, rfl, hneg, hby⟩
    exact ⟨r, ⟨hr, hneg, hby⟩, rfl, rfl⟩

/-- The items that some counted row names. -/
def carriedItems (rows : List Application) : Finset Int :=
  ((countedPairs rows).map Prod.fst).toFinset

theorem mem_carriedItems {rows : List Application} {i : Int} :
    i ∈ carriedItems rows ↔ ∃ t, Carries rows i t := by
  simp only [carriedItems, List.mem_toFinset, List.mem_map, Prod.exists, exists_and_right,
    exists_eq_right, ← mem_countedPairs]

/-- A snapshot of rows has one item for each item that some counted row names. -/
theorem totalItems_ofApplications (rows : List Application) :
    (Snapshot.ofApplications rows).totalItems = (carriedItems rows).card := by
  have hs := Snapshot.valid_ofApplications rows
  rw [Snapshot.totalItems_eq_length_itemTags, ← List.length_map (f := Prod.fst),
    ← List.toFinset_card_of_nodup hs.item_keys_nodup]
  congr 1
  ext i
  rw [List.mem_toFinset, hs.mem_items, mem_carriedItems]
  exact exists_congr fun t => Snapshot.mem_tagsOf_ofApplications.trans mem_countedPairs

/-- What a snapshot promises about the rows it was built from. -/
structure IndexSpec (rows : List Application) (s : Snapshot) : Prop where
  /-- The item index and the tag index both hold exactly the pairs of counted rows. -/
  mem_tagsOf : ∀ i t, t ∈ s.tagsOf i ↔ Carries rows i t
  mem_itemsWith : ∀ i t, i ∈ (s.itemsWith t).getD [] ↔ Carries rows i t
  tagsOf_sorted : ∀ i, (s.tagsOf i).Pairwise (· < ·)
  /-- The listed items are those of counted rows, ascending, each with its non-empty tags. -/
  mem_items : ∀ i, i ∈ s.itemTags.map Prod.fst ↔ ∃ t, Carries rows i t
  items_sorted : (s.itemTags.map Prod.fst).Pairwise (· < ·)
  items_tags : ∀ e ∈ s.itemTags, e.2 = s.tagsOf e.1 ∧ e.2 ≠ []
  totalItems_eq : s.totalItems = (carriedItems rows).card
  itemsWith_ne_nil : ∀ t items, s.itemsWith t = some items → items ≠ []
  support_eq : ∀ t, s.support t = ((s.itemsWith t).getD []).toFinset.card
  /-- The ranking lists each tag with items once, with its support, by support descending and
  then id ascending. -/
  mem_ranking : ∀ t, t ∈ s.supportRanking.map Prod.fst ↔ ∃ i, Carries rows i t
  ranking_nodup : (s.supportRanking.map Prod.fst).Nodup
  ranking_support : ∀ e ∈ s.supportRanking, e.2 = s.support e.1
  ranking_sorted : s.supportRanking.Pairwise fun a b => b.2 < a.2 ∨ a.2 = b.2 ∧ a.1 < b.1

/-- Every snapshot built from rows holds exactly the pairs of its counted rows in both indexes,
with strictly ascending non-empty lists, supports that count distinct items, and a support
ranking strictly ordered by support descending, then tag id ascending. -/
theorem snapshot_index_spec (rows : List Application) :
    IndexSpec rows (Snapshot.ofApplications rows) := by
  have hs := Snapshot.valid_ofApplications rows
  have hholds : ∀ i t, t ∈ (Snapshot.ofApplications rows).tagsOf i ↔ Carries rows i t :=
    fun _ _ => Snapshot.mem_tagsOf_ofApplications.trans mem_countedPairs
  have hitems : ∀ i, i ∈ (Snapshot.ofApplications rows).itemTags.map Prod.fst ↔
      ∃ t, Carries rows i t := fun i => hs.mem_items.trans (exists_congr fun t => hholds i t)
  refine ⟨hholds, fun i t => hs.mem_itemsWith.trans (hholds i t), hs.tags_sorted, hitems,
    hs.items_sorted,
    fun e he => ⟨(Snapshot.tagsOf_eq_of_mem_itemTags he).symm, hs.tags_nonempty_of_mem he⟩,
    totalItems_ofApplications rows,
    fun t items h => hs.itemsWith_ne_nil h, hs.support_eq_card,
    fun t => hs.mem_supportRanking_keys.trans (exists_congr fun i => hholds i t),
    hs.supportRanking_keys_nodup, fun e he => hs.support_of_mem_supportRanking he,
    hs.supportRanking_sorted⟩

end TagAtlas
