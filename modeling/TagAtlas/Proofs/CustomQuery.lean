import TagAtlas.Proofs.CustomTagset
import TagAtlas.Proofs.ServiceQuery
/-! A query by an explicit tag set answers alike for every text of the same words. The names
of a tag set resolve through a table that reads only which names are asked for, and each id is
kept once, so two texts of the same words give include ids that permute each other and exclude
ids with the same members. The planned items depend on those members only, and so do the
names and attributions looked up to report them: the one sector answered differs at most in
the order of its tag names, which follows the order of the include ids. -/
namespace TagAtlas

section Resolve

theorem mem_foldl_keepFirst (ids acc : List Int) (i : Int) :
    i ∈ ids.foldl (fun ids id => if ids.contains id then ids else ids ++ [id]) acc ↔ i ∈ acc ∨ i ∈ ids := by
  induction ids generalizing acc with
  | nil => simp
  | cons x xs ih =>
    rw [List.foldl_cons, ih]
    by_cases hx : x ∈ acc
    · simp only [hx, List.contains_iff_mem, if_true, List.mem_cons]
      constructor
      · rintro (h | h)
        · exact .inl h
        · exact .inr (.inr h)
      · rintro (h | rfl | h)
        · exact .inl h
        · exact .inl hx
        · exact .inr h
    · simp [hx, or_assoc]

theorem nodup_foldl_keepFirst (ids : List Int) {acc : List Int} (h : acc.Nodup) :
    (ids.foldl (fun ids id => if ids.contains id then ids else ids ++ [id]) acc).Nodup := by
  induction ids generalizing acc with
  | nil => exact h
  | cons x xs ih =>
    rw [List.foldl_cons]
    apply ih
    split
    · exact h
    · rename_i hx
      rw [← List.concat_eq_append]
      exact h.concat (by simpa using hx)

theorem mem_resolveInOrder {names : List String} {resolved : List (String × Int)} {i : Int} :
    i ∈ resolveInOrder names resolved ↔ ∃ n ∈ names, resolved.lookup n = some i := by
  rw [resolveInOrder, mem_foldl_keepFirst, List.mem_filterMap]
  simp

theorem nodup_resolveInOrder (names : List String) (resolved : List (String × Int)) :
    (resolveInOrder names resolved).Nodup :=
  nodup_foldl_keepFirst _ List.nodup_nil

/-- The id table of a set of names depends only on which names are asked for. -/
theorem resolveTagIds_congr (m : MemoryStore) (ns : Namespace) {names names' : List String}
    (h : ∀ n, n ∈ names ↔ n ∈ names') : m.resolveTagIds ns names = m.resolveTagIds ns names' := by
  have hc : ∀ n, names.contains n = names'.contains n := fun n => by
    rw [Bool.eq_iff_iff]
    simp [h]
  simp only [MemoryStore.resolveTagIds, hc]

end Resolve

section Report

theorem buildSectors_singleton (ps : PlannedSector) (tagName attributions : Int → Option String) (k : Nat) :
    buildSectors [ps] tagName attributions k =
      if (ps.tags.filterMap tagName).isEmpty || ps.items.isEmpty then []
      else [{ id := 0, tags := ps.tags.filterMap tagName, itemCount := ps.items.length,
              topMakers := rankMakers ps.items attributions k }] := by
  unfold buildSectors
  simp only [List.foldl_cons, List.foldl_nil]
  split <;> simp

/-- Two answers alike but for the order of tag names: both empty, or each one sector with the
same number, item count and makers, and tag names that permute each other. -/
def SameUpToTagOrder (a b : List Sector) : Prop :=
  (a = [] ∧ b = []) ∨ ∃ x y, a = [x] ∧ b = [y] ∧ x.id = y.id ∧ x.itemCount = y.itemCount ∧
    x.topMakers = y.topMakers ∧ x.tags.Perm y.tags

/-- The report of one planned sector, for tag ids that permute each other: the ids looked up
are the same, so only the order of the names differs. -/
theorem reportFrom_sameUpToTagOrder (m : MemoryStore) (p : Params) {P P' : SectorPlan}
    {inc inc' items : List Int} (hinc : inc.Perm inc') (hP : P.sectors = [⟨inc, items⟩])
    (hP' : P'.sectors = [⟨inc', items⟩]) : SameUpToTagOrder (m.reportFrom p P) (m.reportFrom p P') := by
  have hids : distinctSorted inc = distinctSorted inc' :=
    collapse_mergeSort_congr totalOrder_le fun _ => hinc.mem_iff
  simp only [MemoryStore.reportFrom, hP, hP', List.flatMap_cons, List.flatMap_nil, List.append_nil, hids,
    buildSectors_singleton]
  have hnames := hinc.filterMap fun t => (m.tagNames (distinctSorted inc')).lookup t
  rw [hnames.isEmpty_eq]
  split
  · exact .inl ⟨rfl, rfl⟩
  · exact .inr ⟨_, _, rfl, rfl, rfl, rfl, rfl, hnames⟩

theorem reportFrom_planCustomSector (m : MemoryStore) (p : Params) {s : Snapshot} (hs : s.Valid)
    {inc inc' exc exc' : List Int} (hinc : inc.Perm inc') (hexc : ∀ t, t ∈ exc ↔ t ∈ exc') :
    SameUpToTagOrder (m.reportFrom p (planCustomSector s inc exc))
      (m.reportFrom p (planCustomSector s inc' exc')) := by
  have hitems := hs.planCustom_congr (fun _ => hinc.mem_iff) hexc
  by_cases hnil : planCustom s inc exc = []
  · have hnil' : planCustom s inc' exc' = [] := hitems ▸ hnil
    left
    simp [MemoryStore.reportFrom, sectors_planCustomSector, hnil, hnil', buildSectors]
  · have hnil' : planCustom s inc' exc' ≠ [] := hitems ▸ hnil
    apply reportFrom_sameUpToTagOrder m p hinc
    · rw [sectors_planCustomSector, if_neg hnil]
    · rw [sectors_planCustomSector, if_neg hnil', ← hitems]

end Report

section Query

/-- Two custom queries on the same rows, whose tag sets read to buckets that permute each
other, answer alike but for the order of tag names. -/
theorem queryAnswer_sameUpToTagOrder (m : MemoryStore) (p p' : Params) (hrows : m.queryRows p = m.queryRows p')
    (hns : p.namespace_ = p'.namespace_) (hmax : p.maxMappers = p'.maxMappers)
    (hcustom : p.isCustom = true) (hcustom' : p'.isCustom = true)
    (hinc : (CustomTagset.parse p.customTagset).includes.Perm (CustomTagset.parse p'.customTagset).includes)
    (hexc : (CustomTagset.parse p.customTagset).excludes.Perm (CustomTagset.parse p'.customTagset).excludes) :
    SameUpToTagOrder (m.queryAnswer p) (m.queryAnswer p') := by
  -- both tag sets ask for the same names, so they resolve through the same table
  have hnames : ∀ n, n ∈ (CustomTagset.parse p.customTagset).names ↔
      n ∈ (CustomTagset.parse p'.customTagset).names := fun n => by
    simp only [CustomTagset.names, List.mem_append, hinc.mem_iff, hexc.mem_iff]
  have htable : m.resolveTagIds p.namespace_ (CustomTagset.parse p.customTagset).names =
      m.resolveTagIds p'.namespace_ (CustomTagset.parse p'.customTagset).names := by
    rw [hns]
    exact resolveTagIds_congr m _ hnames
  have hids : (m.resolvedIds p).1.Perm (m.resolvedIds p').1 := by
    refine (List.perm_ext_iff_of_nodup (nodup_resolveInOrder _ _) (nodup_resolveInOrder _ _)).2 fun i => ?_
    refine mem_resolveInOrder.trans (Iff.trans ?_ mem_resolveInOrder.symm)
    rw [htable]
    simp only [hinc.mem_iff]
  have hexcIds : ∀ i, i ∈ (m.resolvedIds p).2 ↔ i ∈ (m.resolvedIds p').2 := fun i => by
    refine mem_resolveInOrder.trans (Iff.trans ?_ mem_resolveInOrder.symm)
    rw [htable]
    simp only [hexc.mem_iff]
  have hempty : (CustomTagset.parse p.customTagset).isEmpty = (CustomTagset.parse p'.customTagset).isEmpty := by
    simp only [CustomTagset.isEmpty, hinc.isEmpty_eq]
  have hrep : m.reportFrom p = m.reportFrom p' := by
    funext plan
    simp only [MemoryStore.reportFrom, hmax]
  unfold MemoryStore.queryAnswer MemoryStore.queryPlan
  rw [← hrows, hcustom, hcustom', ← hempty, ← hids.isEmpty_eq, hrep]
  simp only [if_true]
  split
  · exact .inl ⟨rfl, rfl⟩
  · split
    · exact .inl ⟨rfl, rfl⟩
    · exact reportFrom_planCustomSector m p' (Snapshot.valid_ofApplications _) hids hexcIds

/-- A query on a store whose reads never fail, without a deadline, answers its sectors. -/
theorem query_without_faults (s : ServiceState) (m : MemoryStore) (p : Params) :
    (s.query ⟨m, {}⟩ none p).1 = .finished (.ok (m.queryAnswer p)) := by
  rcases query_cases s ⟨m, {}⟩ p none with ⟨hd, -⟩ | ⟨hfin, -⟩
  · simp at hd
  · rw [hfin, Faults.answerAlong_of_none]
    rw [Faults.attempt_of_forall_none fun _ _ => rfl]

/-- A custom query answers alike for any two texts of the same words, in any order and with
any repeats: no sector for both, or one sector for both with the same number, item count and
makers, its tag names in an order that may differ. -/
theorem custom_query_order_independent (s s' : ServiceState) (m : MemoryStore) (p : Params) (t : String)
    {toks toks' : List (List Char)} (hspaced : CustomTagset.Spaced p.customTagset.toList toks)
    (hspaced' : CustomTagset.Spaced t.toList toks') (hsame : ∀ tok, tok ∈ toks ↔ tok ∈ toks')
    (hcustom : p.isCustom = true) (hcustom' : { p with customTagset := t }.isCustom = true) :
    ((s.query ⟨m, {}⟩ none p).1 = .finished (.ok []) ∧
        (s'.query ⟨m, {}⟩ none { p with customTagset := t }).1 = .finished (.ok [])) ∨
      ∃ sec sec', (s.query ⟨m, {}⟩ none p).1 = .finished (.ok [sec]) ∧
        (s'.query ⟨m, {}⟩ none { p with customTagset := t }).1 = .finished (.ok [sec']) ∧
        sec.id = sec'.id ∧ sec.itemCount = sec'.itemCount ∧ sec.topMakers = sec'.topMakers ∧
        sec.tags.Perm sec'.tags := by
  obtain ⟨hinc, hexc⟩ := CustomTagset.parse_perm hspaced hspaced' hsame
  rw [query_without_faults, query_without_faults]
  rcases queryAnswer_sameUpToTagOrder m p { p with customTagset := t } rfl rfl rfl hcustom hcustom' hinc hexc with
    ⟨h, h'⟩ | ⟨x, y, h, h', halike⟩
  · exact .inl ⟨by rw [h], by rw [h']⟩
  · exact .inr ⟨x, y, by rw [h], by rw [h'], halike⟩

/-- Two ranked items that both carry the tags `a` and `b`. -/
def pairedTagsStore : MemoryStore :=
  .ofDataset
    { applications := [.prediction 1 1, .prediction 1 2, .prediction 2 1, .prediction 2 2]
      tags := [⟨1, "a", "osu"⟩, ⟨2, "b", "osu"⟩]
      items := [{ id := 1, status := "Ranked" }, { id := 2, status := "Ranked" }] }

theorem custom_query_words_reordered :
    (((({} : ServiceState).query ⟨pairedTagsStore, {}⟩ none { customTagset := "a b" }).1 =
          .finished (.ok []) ∧
        (({} : ServiceState).query ⟨pairedTagsStore, {}⟩ none { customTagset := "b a a" }).1 =
          .finished (.ok [])) ∨
      ∃ sec sec', (({} : ServiceState).query ⟨pairedTagsStore, {}⟩ none { customTagset := "a b" }).1 =
          .finished (.ok [sec]) ∧
        (({} : ServiceState).query ⟨pairedTagsStore, {}⟩ none { customTagset := "b a a" }).1 =
          .finished (.ok [sec']) ∧
        sec.id = sec'.id ∧ sec.itemCount = sec'.itemCount ∧ sec.topMakers = sec'.topMakers ∧
        sec.tags.Perm sec'.tags) := by
  have ha : ∀ c ∈ ['a'], CustomTagset.wordChar c = true := by
    simp only [List.mem_singleton, forall_eq]
    decide
  have hb : ∀ c ∈ ['b'], CustomTagset.wordChar c = true := by
    simp only [List.mem_singleton, forall_eq]
    decide
  have hspaced : CustomTagset.Spaced "a b".toList [['a'], ['b']] := by
    rw [show "a b".toList = ['a'] ++ ' ' :: (['b'] ++ []) by decide]
    exact .word (by simp) ha (by decide) (.blank (by decide) (.word (by simp) hb rfl .nil))
  have hspaced' : CustomTagset.Spaced "b a a".toList [['b'], ['a'], ['a']] := by
    rw [show "b a a".toList = ['b'] ++ ' ' :: (['a'] ++ ' ' :: (['a'] ++ [])) by decide]
    exact .word (by simp) hb (by decide) (.blank (by decide)
      (.word (by simp) ha (by decide) (.blank (by decide) (.word (by simp) ha rfl .nil))))
  exact custom_query_order_independent {} {} pairedTagsStore { customTagset := "a b" } "b a a"
    hspaced hspaced' (fun tok => by simp [or_comm]) (by decide) (by decide)

end Query

end TagAtlas
