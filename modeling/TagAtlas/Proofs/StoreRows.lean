import Mathlib.Data.List.Basic
import Std.Data.TreeMap.Lemmas
import TagAtlas.Store.Memory
/-! The rows a memory store gives a namespace and a status bucket. The store keeps, for each
tag id and each item id, the last record of the dataset with that id. A row is given when it
counts as membership, the kept record of its tag lies in the namespace once normalised, and,
unless the bucket admits every status, the kept record of its item has a status the bucket
admits; the rows come in dataset order. So rows given for two namespaces never meet, and the
ranked and unranked buckets are disjoint parts of the rows for every status. Main statement:
`loadApplications_spec`. -/
namespace TagAtlas

/-- Folding inserts into a map keeps, for each key, the last element with that key, and
otherwise what the map held. -/
theorem getElem?_foldl_insert {α : Type} (key : α → Int) (l : List α)
    (m : Std.TreeMap Int α compare) (id : Int) :
    (l.foldl (fun m x => m.insert (key x) x) m)[id]? =
      ((l.filter (key · == id)).getLast?).or m[id]? := by
  induction l generalizing m with
  | nil => simp
  | cons x rest ih =>
    rw [List.foldl_cons, ih, Std.TreeMap.getElem?_insert, List.filter_cons]
    by_cases hx : key x = id
    · -- the element is the last so far with the key, unless a later one replaces it
      simp only [hx, Int.compare_eq_eq, if_true, beq_self_eq_true, List.getLast?_cons]
      cases (rest.filter (key · == id)).getLast? <;> rfl
    · simp only [Int.compare_eq_eq, hx, if_false, beq_iff_eq]

namespace Dataset

/-- The record the tag catalogue keeps for an id: the last with that id. -/
def tagRecord? (d : Dataset) (id : Int) : Option TagRecord :=
  (d.tags.filter (·.id == id)).getLast?

/-- The record the item catalogue keeps for an id: the last with that id. -/
def itemRecord? (d : Dataset) (id : Int) : Option ItemRecord :=
  (d.items.filter (·.id == id)).getLast?

/-- A row belongs to a namespace and a status bucket: it counts as membership, the kept record
of its tag is in the namespace once normalised, and unless the bucket admits every status the
kept record of its item has a status the bucket admits. -/
def Admits (d : Dataset) (ns : Namespace) (f : StatusFilter) (row : Application) : Prop :=
  row.counts = true ∧ (∃ tag ∈ d.tagRecord? row.tag, Namespace.normalize tag.namespace_ = ns) ∧
    (f = .all ∨ ∃ item ∈ d.itemRecord? row.item, f.admits item.status = true)

instance (d : Dataset) (ns : Namespace) (f : StatusFilter) : DecidablePred (d.Admits ns f) :=
  fun _ => inferInstanceAs (Decidable (_ ∧ _ ∧ _))

end Dataset

namespace MemoryStore

variable (d : Dataset)

@[simp] theorem tags_get?_ofDataset (id : Int) : (ofDataset d).tags.get? id = d.tagRecord? id := by
  rw [Std.TreeMap.get?_eq_getElem?, ofDataset, getElem?_foldl_insert TagRecord.id,
    Std.TreeMap.getElem?_emptyc, Option.or_none, Dataset.tagRecord?]

@[simp] theorem items_get?_ofDataset (id : Int) :
    (ofDataset d).items.get? id = d.itemRecord? id := by
  rw [Std.TreeMap.get?_eq_getElem?, ofDataset, getElem?_foldl_insert ItemRecord.id,
    Std.TreeMap.getElem?_emptyc, Option.or_none, Dataset.itemRecord?]

/-- The store's test of a row is the declarative one over the kept records. -/
theorem admits_ofDataset_iff (ns : Namespace) (f : StatusFilter) (row : Application) :
    (ofDataset d).admits ns f row = true ↔ d.Admits ns f row := by
  unfold admits Dataset.Admits
  rw [tags_get?_ofDataset, items_get?_ofDataset]
  cases d.tagRecord? row.tag with
  | none => simp
  | some tag => cases f <;> cases d.itemRecord? row.item <;> simp [and_assoc]

/-- The rows a store gives are the dataset's rows that belong, in dataset order. -/
theorem loadApplications_ofDataset (ns : Namespace) (f : StatusFilter) :
    (ofDataset d).loadApplications ns f = d.applications.filter fun row => d.Admits ns f row := by
  unfold loadApplications
  refine List.filter_congr fun row _ => ?_
  rw [Bool.eq_iff_iff, decide_eq_true_iff]
  exact admits_ofDataset_iff d ns f row

end MemoryStore

/-- No status is both ranked and unranked. -/
theorem StatusFilter.not_admits_ranked_and_unranked (s : String) :
    ¬(StatusFilter.ranked.admits s = true ∧ StatusFilter.unranked.admits s = true) := by
  simp only [StatusFilter.admits, StatusFilter.statuses, List.contains_eq_mem, List.mem_cons,
    List.not_mem_nil, or_false, decide_eq_true_eq]
  rintro ⟨rfl | rfl, h⟩ <;> simp at h

/-- What the rows of a dataset given by namespace and status bucket should be: the rows that
belong, in dataset order; so the rows of two namespaces never meet, and the ranked and
unranked rows are disjoint parts of the rows for every status. -/
structure RowsSpec (d : Dataset) (rows : Namespace → StatusFilter → List Application) : Prop where
  eq_filter : ∀ ns f, rows ns f = d.applications.filter fun row => d.Admits ns f row
  disjoint_namespaces : ∀ ns₁ ns₂ f₁ f₂, ns₁ ≠ ns₂ → (rows ns₁ f₁).Disjoint (rows ns₂ f₂)
  ranked_sublist : ∀ ns, (rows ns .ranked).Sublist (rows ns .all)
  unranked_sublist : ∀ ns, (rows ns .unranked).Sublist (rows ns .all)
  disjoint_buckets : ∀ ns, (rows ns .ranked).Disjoint (rows ns .unranked)

section Rows

variable {d : Dataset}

theorem Dataset.Admits.tag_ns {ns : Namespace} {f : StatusFilter} {row : Application}
    (h : d.Admits ns f row) :
    ∃ tag ∈ d.tagRecord? row.tag, Namespace.normalize tag.namespace_ = ns := h.2.1

/-- A row that belongs to some bucket belongs to the bucket of every status. -/
theorem Dataset.Admits.all {ns : Namespace} {f : StatusFilter} {row : Application}
    (h : d.Admits ns f row) : d.Admits ns .all row :=
  ⟨h.1, h.2.1, .inl rfl⟩

/-- A row belongs to one namespace at most: the one of its tag's kept record. -/
theorem Dataset.Admits.ns_eq {ns₁ ns₂ : Namespace} {f₁ f₂ : StatusFilter} {row : Application}
    (h₁ : d.Admits ns₁ f₁ row) (h₂ : d.Admits ns₂ f₂ row) : ns₁ = ns₂ := by
  obtain ⟨tag₁, hmem₁, hns₁⟩ := h₁.tag_ns
  obtain ⟨tag₂, hmem₂, hns₂⟩ := h₂.tag_ns
  rw [Option.mem_def] at hmem₁ hmem₂
  have htag : tag₁ = tag₂ := Option.some.inj (hmem₁.symm.trans hmem₂)
  rw [← hns₁, ← hns₂, htag]

/-- No row belongs to both the ranked and the unranked bucket. -/
theorem Dataset.Admits.not_ranked_unranked {ns : Namespace} {row : Application}
    (hr : d.Admits ns .ranked row) (hu : d.Admits ns .unranked row) : False := by
  obtain ⟨-, -, hr | ⟨item, hitem, hadm⟩⟩ := hr
  · cases hr
  obtain ⟨-, -, hu | ⟨item', hitem', hadm'⟩⟩ := hu
  · cases hu
  rw [Option.mem_def] at hitem hitem'
  have hsame : item = item' := Option.some.inj (hitem.symm.trans hitem')
  subst hsame
  exact StatusFilter.not_admits_ranked_and_unranked item.status ⟨hadm, hadm'⟩

/-- The rows of any bucket are among the rows for every status. -/
theorem MemoryStore.loadApplications_sublist_all (d : Dataset) (ns : Namespace) (f : StatusFilter) :
    ((MemoryStore.ofDataset d).loadApplications ns f).Sublist
      ((MemoryStore.ofDataset d).loadApplications ns .all) := by
  simp only [MemoryStore.loadApplications_ofDataset]
  exact List.monotone_filter_right _ fun row h => decide_eq_true (of_decide_eq_true h).all

end Rows

/-- The rows a memory store gives a namespace and a status bucket are, in dataset order, the
rows that count, whose tag's last record normalises to the namespace and, unless every status
is admitted, whose item's last record has an admitted status. Rows of distinct namespaces never
meet, and the ranked and unranked rows are disjoint sublists of the rows for every status. -/
theorem loadApplications_spec (d : Dataset) :
    RowsSpec d (MemoryStore.ofDataset d).loadApplications where
  eq_filter := MemoryStore.loadApplications_ofDataset d
  disjoint_namespaces ns₁ ns₂ f₁ f₂ hne row h₁ h₂ := by
    rw [MemoryStore.loadApplications_ofDataset, List.mem_filter, decide_eq_true_eq] at h₁ h₂
    exact hne (h₁.2.ns_eq h₂.2)
  ranked_sublist ns := MemoryStore.loadApplications_sublist_all d ns .ranked
  unranked_sublist ns := MemoryStore.loadApplications_sublist_all d ns .unranked
  disjoint_buckets ns row hr hu := by
    rw [MemoryStore.loadApplications_ofDataset, List.mem_filter, decide_eq_true_eq] at hr hu
    exact hr.2.not_ranked_unranked hu.2

end TagAtlas
