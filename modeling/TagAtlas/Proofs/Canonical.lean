import Mathlib
import TagAtlas.Corpus.Snapshot
/-! Canonical lists. Sorting a list under a total order and collapsing each run of equal
neighbours gives the strictly increasing list of its members, so the result depends only on
which elements the input holds, not on their order or repetition. -/
namespace TagAtlas

/-- A Boolean comparison that is a total order. -/
structure TotalOrder {α : Type} (le : α → α → Bool) : Prop where
  trans : ∀ a b c, le a b → le b c → le a c
  total : ∀ a b, le a b || le b a
  antisymm : ∀ a b, le a b → le b a → a = b

theorem totalOrder_le {α : Type} [LinearOrder α] : TotalOrder fun a b : α => decide (a ≤ b) where
  trans _ _ _ hab hbc := by
    simp only [decide_eq_true_eq] at *
    exact le_trans hab hbc
  total a b := by simpa using le_total a b
  antisymm _ _ hab hba := by
    simp only [decide_eq_true_eq] at *
    exact le_antisymm hab hba

/-- Sorting a list without repeats makes it strictly ascending. -/
theorem pairwise_lt_mergeSort {α : Type} [LinearOrder α] {l : List α} (h : l.Nodup) :
    (l.mergeSort fun a b => decide (a ≤ b)).Pairwise (· < ·) :=
  ((List.pairwise_mergeSort totalOrder_le.trans totalOrder_le.total l).and
    ((List.mergeSort_perm l _).nodup_iff.2 h)).imp fun ⟨hle, hne⟩ =>
      lt_of_le_of_ne (by simpa using hle) hne

section Collapse

variable {α : Type} [BEq α] [LawfulBEq α]

@[simp] theorem mem_collapse {l : List α} {a : α} : a ∈ collapse l ↔ a ∈ l := by
  fun_induction collapse l with
  | case1 => rfl
  | case2 => rfl
  | case3 x y rest hxy ih =>
    rw [ih, beq_iff_eq.1 hxy]
    simp
  | case4 x y rest _ ih => simp only [List.mem_cons, ih]

/-- Collapsing a list sorted under an antisymmetric relation leaves each element once. -/
theorem pairwise_collapse {r : α → α → Prop} (anti : ∀ a b, r a b → r b a → a = b)
    {l : List α} (h : l.Pairwise r) : (collapse l).Pairwise fun a b => r a b ∧ a ≠ b := by
  fun_induction collapse l with
  | case1 => exact .nil
  | case2 => simp
  | case3 x y rest _ ih => exact ih h.of_cons
  | case4 x y rest hxy ih =>
    have hx := List.pairwise_cons.1 h
    refine List.Pairwise.cons (fun z hz => ⟨hx.1 z (mem_collapse.1 hz), ?_⟩) (ih hx.2)
    rintro rfl
    rcases List.mem_cons.1 (mem_collapse.1 hz) with hy | hrest
    · exact hxy (beq_iff_eq.2 hy)
    · have hyx := (List.pairwise_cons.1 hx.2).1 x hrest
      exact hxy (beq_iff_eq.2 (anti x y (hx.1 y (List.mem_cons_self ..)) hyx))

end Collapse

section Canonical

variable {α : Type} [BEq α] [LawfulBEq α] {le : α → α → Bool}

theorem mem_collapse_mergeSort {l : List α} {a : α} : a ∈ collapse (l.mergeSort le) ↔ a ∈ l := by
  rw [mem_collapse, (List.mergeSort_perm l le).mem_iff]

/-- The canonical form of a list is strictly increasing. -/
theorem pairwise_collapse_mergeSort (h : TotalOrder le) (l : List α) :
    (collapse (l.mergeSort le)).Pairwise fun a b => le a b ∧ a ≠ b :=
  pairwise_collapse (fun a b hab hba => h.antisymm a b hab hba)
    (List.pairwise_mergeSort h.trans h.total l)

theorem nodup_collapse_mergeSort (h : TotalOrder le) (l : List α) :
    (collapse (l.mergeSort le)).Nodup :=
  (pairwise_collapse_mergeSort h l).imp fun hab => hab.2

/-- Two lists with the same members have the same canonical form. -/
theorem collapse_mergeSort_congr (h : TotalOrder le) {l l' : List α} (hl : ∀ a, a ∈ l ↔ a ∈ l') :
    collapse (l.mergeSort le) = collapse (l'.mergeSort le) := by
  have hperm : (collapse (l.mergeSort le)).Perm (collapse (l'.mergeSort le)) := by
    rw [List.perm_ext_iff_of_nodup (nodup_collapse_mergeSort h l) (nodup_collapse_mergeSort h l')]
    intro a
    rw [mem_collapse_mergeSort, mem_collapse_mergeSort, hl]
  exact hperm.eq_of_pairwise (fun a b _ _ hab hba => h.antisymm a b hab hba)
    ((pairwise_collapse_mergeSort h l).imp fun hab => hab.1)
    ((pairwise_collapse_mergeSort h l').imp fun hab => hab.1)

end Canonical

/-- Filtering with a weaker test keeps everything a stronger test keeps. -/
theorem filterMap_sublist_of_imp {α β : Type} {f g : α → Option β}
    (h : ∀ x y, f x = some y → g x = some y) (l : List α) : (l.filterMap f).Sublist (l.filterMap g) := by
  induction l with
  | nil => exact .slnil
  | cons x rest ih =>
    rw [List.filterMap_cons, List.filterMap_cons]
    cases hf : f x with
    | none =>
      cases g x with
      | none => exact ih
      | some y => exact ih.cons y
    | some y => rw [h x y hf]; exact ih.cons_cons y

section Lookup

variable {α β : Type} [BEq α] [LawfulBEq α]

/-- In a table whose keys are distinct, a listed entry is what a lookup finds. -/
theorem lookup_eq_some_of_mem {l : List (α × β)} {k : α} {v : β} (hkeys : (l.map Prod.fst).Nodup)
    (hmem : (k, v) ∈ l) : l.lookup k = some v := by
  induction l with
  | nil => simp at hmem
  | cons e rest ih =>
    obtain ⟨k', v'⟩ := e
    rw [List.map_cons, List.nodup_cons] at hkeys
    rcases List.mem_cons.1 hmem with he | hrest
    · cases he
      simp
    · have hne : (k == k') = false := by
        rw [beq_eq_false_iff_ne]
        rintro rfl
        exact hkeys.1 (List.mem_map.2 ⟨(k, v), hrest, rfl⟩)
      simp only [List.lookup_cons, hne]
      exact ih hkeys.2 hrest

end Lookup

end TagAtlas
