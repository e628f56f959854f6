import TagAtlas.Proofs.TagsetSyntax
import TagAtlas.Report.Sector
/-! Reporting a plan to callers. A planned sector is reported when one of its tags has a name
and it holds an item; the reported sectors are numbered `0, 1, …` in plan order and listed by
item count descending, equal counts by number, since merge sort is stable. The makers of a
sector are tallied item by item, an item naming each maker at most once, and listed by count
descending, then by name; the list is cut after the limit. Main statements: `reported_sectors`
and `ranked_makers`. -/
namespace TagAtlas

section StableSort

variable {α : Type} {le : α → α → Bool} {key : α → Nat}

/-- In a list without repeats no two entries stand in both orders. -/
theorem not_pair_sublist_swap {l : List α} (hl : l.Nodup) {a b : α} (hab : List.Sublist [a, b] l) :
    ¬List.Sublist [b, a] l := by
  induction l with
  | nil => simp at hab
  | cons x xs ih =>
    rw [List.nodup_cons] at hl
    intro hba
    rw [List.sublist_cons_iff] at hab hba
    rcases hab with hab | ⟨r, hr, hsub⟩ <;> rcases hba with hba | ⟨r', hr', hsub'⟩
    · exact ih hl.2 hab hba
    · -- `b` heads the list, yet stands in its tail after `a`
      obtain ⟨rfl, rfl⟩ := List.cons.inj hr'
      exact hl.1 (hab.subset (by simp))
    · obtain ⟨rfl, rfl⟩ := List.cons.inj hr
      exact hl.1 (hba.subset (by simp))
    · obtain ⟨rfl, rfl⟩ := List.cons.inj hr
      obtain ⟨rfl, -⟩ := List.cons.inj hr'
      exact hl.1 (hsub.subset (by simp))

/-- In a list whose keys increase strictly, the entry of smaller key comes first. -/
theorem pair_sublist_of_key_lt {l : List α} (hl : l.Pairwise (fun a b => key a < key b))
    {a b : α} (ha : a ∈ l) (hb : b ∈ l) (hab : key a < key b) : List.Sublist [a, b] l := by
  induction l with
  | nil => simp at ha
  | cons x xs ih =>
    rw [List.pairwise_cons] at hl
    rcases List.mem_cons.1 ha with rfl | ha' <;> rcases List.mem_cons.1 hb with rfl | hb'
    · exact absurd hab (Nat.lt_irrefl _)
    · exact List.cons_sublist_cons.2 (List.singleton_sublist.2 hb')
    · exact absurd (hl.1 a ha') (Nat.lt_asymm hab)
    · exact (ih hl.2 ha' hb').cons x

/-- Merge sort is stable: on a list whose keys increase strictly, entries that the order ties
keep the order of their keys. -/
theorem pairwise_mergeSort_of_keys (trans : ∀ a b c, le a b → le b c → le a c)
    (total : ∀ a b, le a b || le b a) {l : List α} (hl : l.Pairwise (fun a b => key a < key b)) :
    (l.mergeSort le).Pairwise (fun a b => le a b ∧ (le b a → key a < key b)) := by
  have hperm := List.mergeSort_perm l le
  have hne : l.Pairwise (· ≠ ·) := hl.imp fun h hab => by subst hab; exact Nat.lt_irrefl _ h
  have hnodup : (l.mergeSort le).Nodup := hperm.nodup_iff.2 hne
  have hkeys : (l.map key).Nodup := List.pairwise_map.2 (hl.imp Nat.ne_of_lt)
  have hsorted := List.pairwise_mergeSort trans total l
  refine List.pairwise_of_forall_sublist fun {a b} hab => ⟨hsorted.forall_sublist hab, fun hba => ?_⟩
  have ha : a ∈ l := hperm.subset (hab.subset (by simp))
  have hb : b ∈ l := hperm.subset (hab.subset (by simp))
  rcases Nat.lt_trichotomy (key a) (key b) with hlt | heq | hgt
  · exact hlt
  · -- equal keys name one entry, which a list without repeats holds once
    obtain rfl := List.inj_on_of_nodup_map hkeys ha hb heq
    exact absurd hab (List.nodup_iff_sublist.1 hnodup a)
  · -- tied entries keep their input order, here the other way round
    exact absurd (List.pair_sublist_mergeSort trans total hba (pair_sublist_of_key_lt hl hb ha hgt))
      (not_pair_sublist_swap hnodup hab)

end StableSort

section Numbering

namespace PlannedSector

/-- A planned sector is reported when one of its tags has a name and it holds an item. -/
def Reported (tagName : Int → Option String) (p : PlannedSector) : Prop :=
  (∃ t ∈ p.tags, (tagName t).isSome) ∧ p.items ≠ []

instance (tagName : Int → Option String) : DecidablePred (Reported tagName) :=
  fun _ => inferInstanceAs (Decidable (_ ∧ _))

/-- The sector reported for a planned sector under the number `id`: the names of its named
tags in plan order, its number of items and its top makers. -/
def report (tagName attributions : Int → Option String) (maxMakers : Nat) (p : PlannedSector)
    (id : Nat) : Sector :=
  { id, tags := p.tags.filterMap tagName, itemCount := p.items.length
    topMakers := rankMakers p.items attributions maxMakers }

theorem skipped_iff {tagName : Int → Option String} {p : PlannedSector} :
    ((p.tags.filterMap tagName).isEmpty || p.items.isEmpty) = true ↔ ¬Reported tagName p := by
  simp [Reported, List.filterMap_eq_nil_iff, Option.isSome_iff_ne_none, or_iff_not_imp_left]

end PlannedSector

variable (tagName attributions : Int → Option String) (maxMakers : Nat)

/-- Folding over the plan numbers each reported sector by the count of those before it. -/
theorem foldl_numbered (plan : List PlannedSector) (acc : List Sector) :
    plan.foldl (fun acc p =>
      let tags := p.tags.filterMap tagName
      if tags.isEmpty || p.items.isEmpty then acc
      else acc ++ [{ id := acc.length, tags, itemCount := p.items.length
                     topMakers := rankMakers p.items attributions maxMakers : Sector }]) acc =
      acc ++ (plan.filter (PlannedSector.Reported tagName ·)).mapIdx
        fun i p => p.report tagName attributions maxMakers (acc.length + i) := by
  induction plan generalizing acc with
  | nil => simp
  | cons p ps ih =>
    rw [List.foldl_cons, ih]
    by_cases hp : PlannedSector.Reported tagName p
    · have hkeep : ((p.tags.filterMap tagName).isEmpty || p.items.isEmpty) = false := by
        simpa using mt PlannedSector.skipped_iff.1 (not_not.2 hp)
      simp only [hkeep, Bool.false_eq_true, if_false, List.filter_cons, hp, decide_true, if_true,
        List.mapIdx_cons, List.append_assoc, List.length_append, List.length_singleton,
        List.singleton_append, Nat.add_zero, PlannedSector.report]
      congr 3
      funext i q
      rw [Nat.add_assoc, Nat.add_comm 1 i]
    · simp [PlannedSector.skipped_iff.2 hp, hp]

/-- Numbers handed out in order increase along the list. -/
theorem pairwise_id_mapIdx (l : List PlannedSector) :
    (l.mapIdx fun i p => p.report tagName attributions maxMakers i).Pairwise
      (fun a b => a.id < b.id) := by
  rw [List.pairwise_iff_getElem]
  intro i j hi hj hij
  simpa [PlannedSector.report] using hij

/-- The reported sectors are the numbered reported ones, sorted by item count. -/
theorem buildSectors_eq (plan : List PlannedSector) :
    buildSectors plan tagName attributions maxMakers =
      ((plan.filter (PlannedSector.Reported tagName ·)).mapIdx
          fun i p => p.report tagName attributions maxMakers i).mergeSort
        fun a b => a.itemCount ≥ b.itemCount := by
  unfold buildSectors
  rw [foldl_numbered]
  simp

/-- The reported sectors hold, all counted together, no more items than the planned ones. -/
theorem sum_itemCount_buildSectors_le (plan : List PlannedSector) :
    ((buildSectors plan tagName attributions maxMakers).map Sector.itemCount).sum ≤
      (plan.map fun p => p.items.length).sum := by
  have hcounts : ((plan.filter (PlannedSector.Reported tagName ·)).mapIdx
      fun i p => p.report tagName attributions maxMakers i).map Sector.itemCount =
      (plan.filter (PlannedSector.Reported tagName ·)).map fun p => p.items.length :=
    List.ext_getElem? fun i => by
      simp only [List.getElem?_map, List.getElem?_mapIdx, Option.map_map]
      rfl
  rw [buildSectors_eq, ((List.mergeSort_perm _ _).map _).sum_eq, hcounts]
  exact (List.filter_sublist.map _).sum_le_sum fun _ _ => Nat.zero_le _

/-- The reported sectors: exactly the planned sectors with a named tag and an item, numbered
`0, 1, …` in plan order, listed by item count descending and, among equal counts, by number. -/
theorem reported_sectors (plan : List PlannedSector) :
    (buildSectors plan tagName attributions maxMakers).Perm
        ((plan.filter (PlannedSector.Reported tagName ·)).mapIdx
          fun i p => p.report tagName attributions maxMakers i) ∧
      (buildSectors plan tagName attributions maxMakers).Pairwise
        (fun a b => b.itemCount < a.itemCount ∨ a.itemCount = b.itemCount ∧ a.id < b.id) := by
  have htrans : ∀ a b c : Sector, decide (a.itemCount ≥ b.itemCount) = true →
      decide (b.itemCount ≥ c.itemCount) = true → decide (a.itemCount ≥ c.itemCount) = true := by
    intro a b c hab hbc
    simp only [decide_eq_true_eq] at hab hbc ⊢
    omega
  have htotal : ∀ a b : Sector,
      (decide (a.itemCount ≥ b.itemCount) || decide (b.itemCount ≥ a.itemCount)) = true := by
    intro a b
    simp only [Bool.or_eq_true, decide_eq_true_eq]
    omega
  rw [buildSectors_eq]
  refine ⟨List.mergeSort_perm _ _,
    (pairwise_mergeSort_of_keys htrans htotal (pairwise_id_mapIdx tagName attributions maxMakers _)).imp ?_⟩
  intro a b ⟨hab, hid⟩
  simp only [decide_eq_true_eq] at hab hid
  by_cases hlt : b.itemCount < a.itemCount
  · exact .inl hlt
  · exact .inr ⟨by omega, hid (by omega)⟩

end Numbering

section Makers

theorem nodup_foldl_addName (names : List String) {acc : List String} (h : acc.Nodup) :
    (names.foldl CustomTagset.addName acc).Nodup := by
  induction names generalizing acc with
  | nil => exact h
  | cons n ns ih =>
    rw [List.foldl_cons]
    apply ih
    unfold CustomTagset.addName
    split
    · exact h
    · rename_i hn
      simp only [Bool.or_eq_true, List.contains_iff_mem, not_or] at hn
      refine List.nodup_append.2 ⟨h, List.nodup_singleton n, ?_⟩
      intro a ha b hb
      rw [List.mem_singleton] at hb
      subst hb
      rintro rfl
      exact hn.2 ha

/-- An attribution's makers are gathered by adding its trimmed parts one by one. -/
theorem splitAttribution_eq_foldl (raw : String) :
    splitAttribution raw =
      let names := ((raw.splitOn ",").map Text.trim).foldl CustomTagset.addName []
      if names.isEmpty then [unknownMaker] else names := by
  unfold splitAttribution
  show (let names := (raw.splitOn ",").foldl (fun acc s => CustomTagset.addName acc (Text.trim s)) []
    if names.isEmpty then [unknownMaker] else names) = _
  rw [List.foldl_map]

/-- The makers an attribution names: its comma-separated parts, trimmed, the non-empty ones
each at its first occurrence; the unknown maker when no part is left. -/
theorem splitAttribution_eq (raw : String) :
    splitAttribution raw =
      if ((raw.splitOn ",").map Text.trim).filter (!·.isEmpty) = [] then [unknownMaker]
      else (((raw.splitOn ",").map Text.trim).filter (!·.isEmpty)).eraseDups := by
  rw [splitAttribution_eq_foldl, CustomTagset.foldl_addName]
  generalize ((raw.splitOn ",").map Text.trim).filter (!·.isEmpty) = parts
  cases parts with
  | nil => rfl
  | cons n ns => simp [List.eraseDups_cons]

theorem nodup_splitAttribution (raw : String) : (splitAttribution raw).Nodup := by
  rw [splitAttribution_eq_foldl]
  dsimp only
  split
  · exact List.nodup_singleton _
  · exact nodup_foldl_addName _ List.nodup_nil

/-- The number of items of the list whose attribution names `name`. An item without an
attribution names no one, and an item counts once however often its attribution repeats the
name. -/
def makerCount (items : List Int) (attributions : Int → Option String) (name : String) : Nat :=
  items.countP fun i => (attributions i).any fun raw => (splitAttribution raw).contains name

/-- A tally records the counts `f`: its names are distinct, and it holds a name with a count
exactly when the name's count is positive and equal to it. -/
structure Tallies (t : List (String × Nat)) (f : String → Nat) : Prop where
  nodup : (t.map Prod.fst).Nodup
  mem_iff : ∀ n c, (n, c) ∈ t ↔ 0 < f n ∧ c = f n

theorem tallies_nil : Tallies [] fun _ => 0 := ⟨List.nodup_nil, by simp⟩

variable {t : List (String × Nat)} {f : String → Nat} {n : String}

/-- Counting a name that the tally holds raises its count in place. -/
theorem Tallies.bump (h : Tallies t f) (hn : t.any (·.1 == n) = true)
    {g : String × Nat → String × Nat} (hg : ∀ m c, g (m, c) = if m == n then (m, c + 1) else (m, c)) :
    Tallies (t.map g) fun m => f m + if m = n then 1 else 0 := by
  have hfst : ∀ x ∈ t, (Prod.fst ∘ g) x = Prod.fst x := by
    intro x _
    obtain ⟨m, c⟩ := x
    rw [Function.comp_apply, hg]
    split <;> rfl
  refine ⟨?_, fun m c => ?_⟩
  · rw [List.map_map, List.map_congr_left hfst]
    exact h.nodup
  · simp only [List.mem_map]
    constructor
    · rintro ⟨⟨m', c'⟩, hmem, hgm⟩
      obtain ⟨hpos, rfl⟩ := (h.mem_iff m' c').1 hmem
      rw [hg] at hgm
      by_cases hm' : m' = n
      · subst hm'
        simp only [beq_self_eq_true, if_true, Prod.mk.injEq] at hgm
        obtain ⟨rfl, rfl⟩ := hgm
        simp
      · simp only [beq_iff_eq, hm', if_false, Prod.mk.injEq] at hgm
        obtain ⟨rfl, rfl⟩ := hgm
        simp [hm', hpos]
    · rintro ⟨hpos, rfl⟩
      by_cases hm : m = n
      · -- the name is held with its old count, which the bump raises by one
        subst hm
        obtain ⟨⟨m', c'⟩, hmem, hm'⟩ := List.any_eq_true.1 hn
        simp only [beq_iff_eq] at hm'
        subst hm'
        obtain ⟨-, rfl⟩ := (h.mem_iff m' c').1 hmem
        exact ⟨(m', f m'), hmem, by simp [hg]⟩
      · simp only [hm, if_false, Nat.add_zero] at hpos ⊢
        exact ⟨(m, f m), (h.mem_iff m _).2 ⟨hpos, rfl⟩, by simp [hg, hm]⟩

/-- Counting a name that the tally lacks appends it with count one. -/
theorem Tallies.append_new (h : Tallies t f) (hn : t.any (·.1 == n) = false) :
    Tallies (t ++ [(n, 1)]) fun m => f m + if m = n then 1 else 0 := by
  have hnot : ∀ c, (n, c) ∉ t := fun c hmem => by
    have := List.any_eq_false.1 hn _ hmem
    simp at this
  have hzero : f n = 0 := by
    by_contra hpos
    exact hnot _ ((h.mem_iff n (f n)).2 ⟨Nat.pos_of_ne_zero hpos, rfl⟩)
  refine ⟨?_, fun m c => ?_⟩
  · rw [List.map_append]
    refine List.nodup_append.2 ⟨h.nodup, List.nodup_singleton _, ?_⟩
    intro a ha b hb
    obtain ⟨⟨m, c⟩, hmem, rfl⟩ := List.mem_map.1 ha
    simp only [List.map_cons, List.map_nil, List.mem_singleton] at hb
    subst hb
    rintro rfl
    exact hnot c hmem
  · by_cases hm : m = n
    · subst hm
      simp [hnot, hzero]
    · simp [hm, h.mem_iff]

/-- One item's makers, counted into the tally: each name once per time it is listed. -/
theorem Tallies.countNames (h : Tallies t f) (names : List String) :
    Tallies (tallyNames t names) fun m => f m + names.count m := by
  unfold tallyNames
  induction names generalizing t f with
  | nil => simpa using h
  | cons n ns ih =>
    rw [List.foldl_cons]
    have hfun : (fun m => f m + (n :: ns).count m) =
        fun m => (f m + if m = n then 1 else 0) + ns.count m := by
      funext m
      rw [List.count_cons]
      by_cases hm : m = n
      · subst hm
        simp only [beq_self_eq_true, if_true]
        omega
      · simp only [beq_iff_eq, Ne.symm hm, hm, if_false]
        omega
    rw [hfun]
    apply ih
    dsimp only
    split
    · exact h.bump ‹_› fun _ _ => rfl
    · exact h.append_new (Bool.eq_false_iff.2 ‹_›)

/-- A fold whose every step counts each item into the tally at most once counts, for each name,
the items it holds for. -/
theorem tallies_foldl {F : List (String × Nat) → Int → List (String × Nat)}
    {p : Int → String → Bool}
    (hF : ∀ t f item, Tallies t f → Tallies (F t item) fun n => f n + if p item n then 1 else 0)
    (items : List Int) : Tallies (items.foldl F []) fun n => items.countP (p · n) := by
  suffices ∀ t f, Tallies t f → Tallies (items.foldl F t) fun n => f n + items.countP (p · n) by
    simpa using this [] _ tallies_nil
  induction items with
  | nil => intro t f h; simpa using h
  | cons i is ih =>
    intro t f h
    rw [List.foldl_cons]
    have hfun : (fun n => f n + (i :: is).countP (p · n)) =
        fun n => (f n + if p i n then 1 else 0) + is.countP (p · n) := by
      funext n
      rw [List.countP_cons]
      omega
    rw [hfun]
    exact ih _ _ (hF t f i h)

/-- One item counted into the tally: each maker its attribution names, once. -/
theorem Tallies.countItem (h : Tallies t f) (attributions : Int → Option String) (item : Int) :
    Tallies (match attributions item with
      | some raw => tallyNames t (splitAttribution raw)
      | none => t)
      fun n => f n + if (attributions item).any (fun raw => (splitAttribution raw).contains n)
        then 1 else 0 := by
  cases hA : attributions item with
  | none => simpa using h
  | some raw =>
    have hcount : ∀ n, (splitAttribution raw).count n =
        if (splitAttribution raw).contains n then 1 else 0 := by
      intro n
      split <;> rename_i hc
      · exact List.count_eq_one_of_mem (nodup_splitAttribution raw) (by simpa using hc)
      · exact List.count_eq_zero_of_not_mem (by simpa using hc)
    simpa [hcount] using h.countNames (splitAttribution raw)

theorem MakerCount.before_iff {a b : MakerCount} :
    a.before b = true ↔ b.count < a.count ∨ a.count = b.count ∧ a.name ≤ b.name := by
  simp [MakerCount.before]

/-- A tally read out as maker counts and sorted: by count descending, then by name, and holding
exactly the names of positive count. -/
theorem Tallies.ranking (h : Tallies t f) {G : String × Nat → MakerCount}
    (hG : ∀ n c, G (n, c) = ⟨n, c⟩) :
    ((t.map G).mergeSort MakerCount.before).Pairwise
        (fun a b => b.count < a.count ∨ a.count = b.count ∧ a.name < b.name) ∧
      ∀ m, m ∈ (t.map G).mergeSort MakerCount.before ↔ 0 < m.count ∧ m.count = f m.name := by
  have hname : ∀ x ∈ t, (MakerCount.name ∘ G) x = Prod.fst x := by
    intro x _
    obtain ⟨n, c⟩ := x
    rw [Function.comp_apply, hG]
  have hnames : ((t.map G).map MakerCount.name).Nodup := by
    rw [List.map_map, List.map_congr_left hname]
    exact h.nodup
  have htrans : ∀ a b c : MakerCount, a.before b = true → b.before c = true → a.before c = true := by
    intro a b c hab hbc
    rw [MakerCount.before_iff] at hab hbc ⊢
    rcases hab with hab | ⟨hab, hab'⟩ <;> rcases hbc with hbc | ⟨hbc, hbc'⟩
    · exact .inl (by omega)
    · exact .inl (by omega)
    · exact .inl (by omega)
    · exact .inr ⟨hab.trans hbc, le_trans hab' hbc'⟩
  have htotal : ∀ a b : MakerCount, (a.before b || b.before a) = true := by
    intro a b
    rw [Bool.or_eq_true, MakerCount.before_iff, MakerCount.before_iff]
    rcases Nat.lt_trichotomy a.count b.count with hlt | heq | hgt
    · exact .inr (.inl hlt)
    · rcases le_total a.name b.name with hle | hle
      · exact .inl (.inr ⟨heq, hle⟩)
      · exact .inr (.inr ⟨heq.symm, hle⟩)
    · exact .inl (.inl hgt)
  have hperm := List.mergeSort_perm (t.map G) MakerCount.before
  have hdistinct : ((t.map G).mergeSort MakerCount.before).Pairwise (·.name ≠ ·.name) :=
    List.pairwise_map.1 ((hperm.map MakerCount.name).nodup_iff.2 hnames)
  refine ⟨((List.pairwise_mergeSort htrans htotal _).and hdistinct).imp ?_, fun m => ?_⟩
  · -- the names differ, so of two equal counts the first name is strictly smaller
    intro a b ⟨hab, hne⟩
    rcases MakerCount.before_iff.1 hab with hlt | ⟨heq, hle⟩
    · exact .inl hlt
    · exact .inr ⟨heq, lt_of_le_of_ne hle hne⟩
  · rw [List.mem_mergeSort, List.mem_map]
    constructor
    · rintro ⟨⟨n, c⟩, hmem, rfl⟩
      obtain ⟨hpos, rfl⟩ := (h.mem_iff n c).1 hmem
      rw [hG]
      exact ⟨hpos, rfl⟩
    · rintro ⟨hpos, hcount⟩
      exact ⟨(m.name, m.count), (h.mem_iff _ _).2 ⟨hcount ▸ hpos, hcount⟩, by rw [hG]⟩

/-- The top makers of a list of items: the first `limit` of all makers named by some item,
each with the number of items naming it, listed by count descending and then by name. The
makers of an attribution are its trimmed, non-empty comma-separated parts, each once, or the
unknown maker when there are none. -/
theorem ranked_makers (items : List Int) (attributions : Int → Option String) (limit : Nat) :
    (∀ raw, splitAttribution raw =
      if ((raw.splitOn ",").map Text.trim).filter (!·.isEmpty) = [] then [unknownMaker]
      else (((raw.splitOn ",").map Text.trim).filter (!·.isEmpty)).eraseDups) ∧
    ∃ ranked : List MakerCount,
      ranked.Pairwise (fun a b => b.count < a.count ∨ a.count = b.count ∧ a.name < b.name) ∧
      (∀ m, m ∈ ranked ↔ 0 < m.count ∧ m.count = makerCount items attributions m.name) ∧
      rankMakers items attributions limit = ranked.take limit := by
  have htally := tallies_foldl (fun t f item h => Tallies.countItem h attributions item) items
  refine ⟨splitAttribution_eq, _, (htally.ranking fun _ _ => rfl).1,
    (htally.ranking fun _ _ => rfl).2, rfl⟩

end Makers

end TagAtlas
