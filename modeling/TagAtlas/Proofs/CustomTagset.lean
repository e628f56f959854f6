import TagAtlas.Plan.Sectors
import TagAtlas.Proofs.Canonical
import TagAtlas.Proofs.Snapshot
/-! Explicit tag sets do not depend on the order or the repeats of their words. A text of bare
words separated by blanks is read word by word, and the names it yields in each bucket have
the same members for any text of the same words, each name once. The items planned for a tag
set are those carrying every include tag and no exclude tag, ascending: they depend on the two
lists of tag ids only through their members (`custom_plan_spec`). -/
namespace TagAtlas

namespace CustomTagset

/-- `Spaced cs toks`: the text `cs` writes the words `toks` in order, each a non-empty run of
word characters, with blanks before, between and after them. -/
inductive Spaced : List Char → List (List Char) → Prop
  | nil : Spaced [] []
  | blank {c : Char} {cs : List Char} {toks : List (List Char)} :
      Text.isBlank c = true → Spaced cs toks → Spaced (c :: cs) toks
  | word {tok cs : List Char} {toks : List (List Char)} :
      tok ≠ [] → (∀ c ∈ tok, wordChar c = true) → cs.head?.all Text.isBlank = true →
      Spaced cs toks → Spaced (tok ++ cs) (tok :: toks)

section Tokens

theorem ne_quote_of_wordChar {c : Char} (h : wordChar c = true) : c ≠ '"' := by
  rintro rfl
  exact absurd h (by decide)

theorem wordChar_eq_false_of_isBlank {c : Char} (h : Text.isBlank c = true) : wordChar c = false := by
  simp [wordChar, h]

theorem quotedAt_eq_none {cs : List Char} (h : cs.head? ≠ some '"') : quotedAt cs = none := by
  unfold quotedAt
  split
  · simp at h
  · rfl

/-- A blank starts no token. -/
theorem tokenAt_blank {c : Char} {cs : List Char} (hc : Text.isBlank c = true) :
    tokenAt (c :: cs) = none := by
  have hmark : (c == '-' || c == '.') = false := by
    by_cases h1 : c = '-'
    · subst h1
      exact absurd hc (by decide)
    by_cases h2 : c = '.'
    · subst h2
      exact absurd hc (by decide)
    simp [h1, h2]
  have hquote : (c :: cs).head? ≠ some '"' := by
    rintro h
    cases (by simpa using h : c = '"')
    exact absurd hc (by decide)
  unfold tokenAt
  simp only [hmark, Bool.false_eq_true, if_false, quotedAt_eq_none hquote, List.takeWhile_cons,
    wordChar_eq_false_of_isBlank hc]
  rfl

/-- A word followed by a blank, or by nothing, is the token at the front. -/
theorem tokenAt_word {tok cs : List Char} (hne : tok ≠ []) (hword : ∀ c ∈ tok, wordChar c = true)
    (hcs : cs.head?.all Text.isBlank = true) : tokenAt (tok ++ cs) = some tok := by
  obtain ⟨c, rest, rfl⟩ := List.exists_cons_of_ne_nil hne
  -- no quote can follow the first character: it is a word character, a blank or the end
  have hnext : (rest ++ cs).head? ≠ some '"' := by
    cases rest with
    | cons r _ => simpa using ne_quote_of_wordChar (hword r (by simp))
    | nil =>
      cases cs with
      | nil => simp
      | cons b _ =>
        have hb : Text.isBlank b = true := by simpa using hcs
        rintro h
        cases (by simpa using h : b = '"')
        exact absurd hb (by decide)
  have hfirst : (c :: (rest ++ cs)).head? ≠ some '"' := by
    simpa using ne_quote_of_wordChar (hword c (by simp))
  have htake : (c :: rest ++ cs).takeWhile wordChar = c :: rest := by
    rw [List.takeWhile_append_of_pos hword]
    cases cs with
    | nil => simp
    | cons b _ =>
      have hb : Text.isBlank b = true := by simpa using hcs
      simp [wordChar_eq_false_of_isBlank hb]
  unfold tokenAt
  rw [List.cons_append]
  simp only [quotedAt_eq_none hnext, quotedAt_eq_none hfirst, Option.map_none, ite_self]
  rw [← List.cons_append, htake]
  rfl

/-- Skipping the rest of a token. -/
theorem tokensFrom_length_append (xs ys : List Char) : tokensFrom xs.length (xs ++ ys) = tokensFrom 0 ys := by
  induction xs with
  | nil => rfl
  | cons x xs ih => rw [List.length_cons, List.cons_append, tokensFrom, ih]

/-- A spaced text is read back into its words. -/
theorem tokensFrom_spaced {cs : List Char} {toks : List (List Char)} (h : Spaced cs toks) :
    tokensFrom 0 cs = toks := by
  induction h with
  | nil => rfl
  | blank hc _ ih => rw [tokensFrom, tokenAt_blank hc, ih]
  | @word tok cs toks hne hword hcs _ ih =>
    obtain ⟨c, rest, rfl⟩ := List.exists_cons_of_ne_nil hne
    rw [List.cons_append, tokensFrom, ← List.cons_append, tokenAt_word hne hword hcs]
    dsimp only
    rw [List.length_cons, Nat.add_sub_cancel, tokensFrom_length_append, ih]

end Tokens

section Buckets

theorem mem_addName {bucket : List String} {name x : String} :
    x ∈ addName bucket name ↔ x ∈ bucket ∨ (x = name ∧ name.isEmpty = false) := by
  unfold addName
  by_cases hempty : name.isEmpty = true
  · simp [hempty]
  · by_cases hin : name ∈ bucket
    · simp only [hempty, Bool.false_or, List.contains_iff_mem.2 hin, if_true]
      constructor
      · exact .inl
      · rintro (h | ⟨rfl, -⟩)
        · exact h
        · exact hin
    · simp [hempty, hin]

theorem nodup_addName {bucket : List String} (h : bucket.Nodup) (name : String) :
    (addName bucket name).Nodup := by
  unfold addName
  split_ifs with hskip
  · exact h
  · have hout : name ∉ bucket := fun hin => hskip (by simp [hin])
    exact h.append (List.nodup_singleton name) (List.disjoint_singleton.2 hout)

/-- A way of reading a token into a tag set that only adds names: what it adds to a bucket does
not depend on what the bucket holds, and each bucket keeps each name once. -/
structure AddsNames (f : CustomTagset → List Char → CustomTagset) : Prop where
  includes : ∀ ts tok x, x ∈ (f ts tok).includes ↔ x ∈ ts.includes ∨ x ∈ (f {} tok).includes
  excludes : ∀ ts tok x, x ∈ (f ts tok).excludes ↔ x ∈ ts.excludes ∨ x ∈ (f {} tok).excludes
  nodup : ∀ ts tok, ts.includes.Nodup → ts.excludes.Nodup →
    (f ts tok).includes.Nodup ∧ (f ts tok).excludes.Nodup

/-- Reading a tag set is reading its tokens one by one, each only adding names. -/
theorem exists_parse_eq_foldl :
    ∃ f, AddsNames f ∧ ∀ raw, parse raw = (tokensFrom 0 raw.toList).foldl f {} := by
  refine ⟨_, ⟨fun ts tok x => ?_, fun ts tok x => ?_, fun ts tok hin hex => ?_⟩, fun _ => rfl⟩
  · split <;> simp [mem_addName]
  · split <;> simp [mem_addName]
  · -- the token's mark picks the bucket that grows
    split <;> dsimp only
    · exact ⟨hin, nodup_addName hex _⟩
    · exact ⟨nodup_addName hin _, hex⟩
    · exact ⟨nodup_addName hin _, hex⟩

variable {f : CustomTagset → List Char → CustomTagset}

/-- What a run of tokens adds to each bucket is what its tokens add one by one. -/
theorem AddsNames.mem_foldl (hf : AddsNames f) (toks : List (List Char)) (ts : CustomTagset) (x : String) :
    (x ∈ (toks.foldl f ts).includes ↔ x ∈ ts.includes ∨ ∃ tok ∈ toks, x ∈ (f {} tok).includes) ∧
    (x ∈ (toks.foldl f ts).excludes ↔ x ∈ ts.excludes ∨ ∃ tok ∈ toks, x ∈ (f {} tok).excludes) := by
  induction toks generalizing ts with
  | nil => simp
  | cons tok rest ih =>
    rw [List.foldl_cons, (ih (f ts tok)).1, (ih (f ts tok)).2, hf.includes, hf.excludes]
    simp only [List.mem_cons, exists_eq_or_imp, or_assoc, and_self]

theorem AddsNames.nodup_foldl (hf : AddsNames f) (toks : List (List Char)) (ts : CustomTagset)
    (hin : ts.includes.Nodup) (hex : ts.excludes.Nodup) :
    (toks.foldl f ts).includes.Nodup ∧ (toks.foldl f ts).excludes.Nodup := by
  induction toks generalizing ts with
  | nil => exact ⟨hin, hex⟩
  | cons tok rest ih =>
    obtain ⟨hin', hex'⟩ := hf.nodup ts tok hin hex
    exact ih _ hin' hex'

/-- Texts of the same words, in any order and with any repeats, read to buckets with the same
names, each once. -/
theorem parse_perm {raw raw' : String} {toks toks' : List (List Char)} (hs : Spaced raw.toList toks)
    (hs' : Spaced raw'.toList toks') (hsame : ∀ tok, tok ∈ toks ↔ tok ∈ toks') :
    (parse raw).includes.Perm (parse raw').includes ∧ (parse raw).excludes.Perm (parse raw').excludes := by
  obtain ⟨f, hf, hparse⟩ := exists_parse_eq_foldl
  rw [hparse, hparse, tokensFrom_spaced hs, tokensFrom_spaced hs']
  have hnodup := hf.nodup_foldl toks {} List.nodup_nil List.nodup_nil
  have hnodup' := hf.nodup_foldl toks' {} List.nodup_nil List.nodup_nil
  refine ⟨(List.perm_ext_iff_of_nodup hnodup.1 hnodup'.1).2 fun x => ?_,
    (List.perm_ext_iff_of_nodup hnodup.2 hnodup'.2).2 fun x => ?_⟩
  · rw [(hf.mem_foldl toks {} x).1, (hf.mem_foldl toks' {} x).1]
    simp only [hsame]
  · rw [(hf.mem_foldl toks {} x).2, (hf.mem_foldl toks' {} x).2]
    simp only [hsame]

end Buckets

end CustomTagset

section Traverse

variable {α β : Type} {f : α → Option β}

theorem mem_of_mapM_eq_some : ∀ {l : List α} {L : List β}, l.mapM f = some L →
    (∀ a ∈ l, (f a).isSome) ∧ ∀ b, b ∈ L ↔ ∃ a ∈ l, f a = some b
  | [], L, h => by
    cases h
    simp
  | a :: l, L, h => by
    rw [List.mapM_cons] at h
    cases ha : f a with
    | none => simp [ha] at h
    | some b =>
      cases hl : l.mapM f with
      | none => simp [ha, hl] at h
      | some bs =>
        simp only [ha, hl, Option.bind_eq_bind, Option.bind_some, Option.pure_def, Option.some.injEq] at h
        subst h
        obtain ⟨hsome, hmem⟩ := mem_of_mapM_eq_some hl
        refine ⟨?_, fun c => ?_⟩
        · simpa [ha] using hsome
        rw [List.mem_cons, hmem]
        simp only [List.mem_cons, exists_eq_or_imp, ha, Option.some.injEq]
        exact or_congr_left eq_comm

theorem exists_of_mapM_eq_none : ∀ {l : List α}, l.mapM f = none → ∃ a ∈ l, f a = none
  | [], h => by cases h
  | a :: l, h => by
    rw [List.mapM_cons] at h
    cases ha : f a with
    | none => exact ⟨a, List.mem_cons_self, ha⟩
    | some b =>
      cases hl : l.mapM f with
      | none =>
        obtain ⟨a', ha', hnone⟩ := exists_of_mapM_eq_none hl
        exact ⟨a', List.mem_cons_of_mem _ ha', hnone⟩
      | some bs => simp [ha, hl] at h

end Traverse

section Plan

variable {s : Snapshot}

/-- The items to leave out: those that the set of some exclude tag holds. -/
theorem mem_excludedKeys (exc : List Int) (i : Int) :
    i ∈ (exc.filterMap s.holders).flatMap SlotTable.keys ↔
      ∃ t ∈ exc, i ∈ (s.itemsWith t).getD [] := by
  simp only [List.mem_flatMap, List.mem_filterMap, Snapshot.itemsWith]
  constructor
  · rintro ⟨set, ⟨t, ht, hset⟩, hi⟩
    exact ⟨t, ht, by rw [hset]; exact hi⟩
  · rintro ⟨t, ht, hi⟩
    cases hset : s.holders t with
    | none => simp [hset] at hi
    | some set => exact ⟨set, ⟨t, ht, hset⟩, by simpa [hset] using hi⟩

namespace Snapshot.Valid

variable (hs : s.Valid)
include hs

omit hs in
/-- The sets fetched for the include tags hold an item together exactly when every include tag
is on it. -/
theorem forall_mem_includeSets {inc : List Int} {sets : List IdSet}
    (hmap : inc.mapM (fun t => (s.holders t).filter (·.size != 0)) = some sets) (i : Int) :
    (∀ set ∈ sets, i ∈ set.keys) ↔ ∀ t ∈ inc, i ∈ (s.itemsWith t).getD [] := by
  obtain ⟨hsome, hmem⟩ := mem_of_mapM_eq_some hmap
  constructor
  · intro h t ht
    obtain ⟨set, hset⟩ := Option.isSome_iff_exists.1 (hsome t ht)
    obtain ⟨hset', -⟩ := Option.filter_eq_some_iff.1 hset
    simp only [Snapshot.itemsWith, hset', Option.map_some, Option.getD_some]
    exact h set ((hmem set).2 ⟨t, ht, hset⟩)
  · intro h set hset
    obtain ⟨t, ht, hts⟩ := (hmem set).1 hset
    obtain ⟨hset', -⟩ := Option.filter_eq_some_iff.1 hts
    simpa [Snapshot.itemsWith, hset'] using h t ht

theorem wf_of_mem_includeSets {inc : List Int} {sets : List IdSet}
    (hmap : inc.mapM (fun t => (s.holders t).filter (·.size != 0)) = some sets)
    {set : IdSet} (hset : set ∈ sets) : SlotTable.WF hashId set := by
  obtain ⟨t, -, hts⟩ := ((mem_of_mapM_eq_some hmap).2 set).1 hset
  exact hs.holders_wf t set (Option.filter_eq_some_iff.1 hts).1

/-- The items planned for a tag set are those holding every include tag and no exclude tag,
provided some tag is included. -/
theorem mem_planCustom (inc exc : List Int) (i : Int) :
    i ∈ planCustom s inc exc ↔
      inc ≠ [] ∧ (∀ t ∈ inc, i ∈ (s.itemsWith t).getD []) ∧ ∀ t ∈ exc, i ∉ (s.itemsWith t).getD [] := by
  unfold planCustom
  by_cases hinc : inc = []
  · simp [hinc]
  rw [if_neg (by simpa using hinc)]
  cases hmap : inc.mapM (fun t => (s.holders t).filter (·.size != 0)) with
  | none =>
    simp only [List.not_mem_nil, false_iff, not_and]
    intro _ hall
    obtain ⟨t, ht, hnone⟩ := exists_of_mapM_eq_none hmap
    have hi := hall t ht
    rcases hw : s.holders t with _ | set
    · simp [Snapshot.itemsWith, hw] at hi
    · have hsize : set.size = 0 := by simpa [hw] using hnone
      rw [(hs.holders_wf t set hw).size_eq_length_keys, List.length_eq_zero_iff] at hsize
      simp [Snapshot.itemsWith, hw, hsize] at hi
  | some sets =>
    have hperm := List.mergeSort_perm sets sizeLE
    cases hsorted : sets.mergeSort sizeLE with
    | nil =>
      obtain ⟨t, ht⟩ := List.exists_mem_of_ne_nil _ hinc
      obtain ⟨set, hset⟩ := Option.isSome_iff_exists.1 ((mem_of_mapM_eq_some hmap).1 t ht)
      have hmem := hperm.mem_iff.2 (((mem_of_mapM_eq_some hmap).2 set).2 ⟨t, ht, hset⟩)
      rw [hsorted] at hmem
      cases hmem
    | cons base rest =>
      rw [hsorted] at hperm
      have hwf : ∀ set ∈ base :: rest, SlotTable.WF hashId set := fun set hset =>
        hs.wf_of_mem_includeSets hmap (hperm.mem_iff.1 hset)
      have hempty : SlotTable.WF hashId ({} : IdSet) := SlotTable.wf_empty
      obtain ⟨hex, hexkeys⟩ := hempty.foldl_insert () ((exc.filterMap s.holders).flatMap SlotTable.keys)
      dsimp only
      rw [hsorted]
      dsimp only
      rw [List.mem_mergeSort, List.mem_filter, Bool.and_eq_true, List.all_eq_true,
        Bool.not_eq_true', ← Bool.not_eq_true, hex.contains_iff, hexkeys, mem_excludedKeys]
      have hcommon : (i ∈ base.keys ∧ ∀ set ∈ rest, set.contains i (hashId i) = true) ↔
          ∀ t ∈ inc, i ∈ (s.itemsWith t).getD [] := by
        rw [← forall_mem_includeSets hmap, ← forall_congr' fun set => imp_congr_left hperm.mem_iff,
          List.forall_mem_cons]
        exact and_congr_right fun _ => forall₂_congr fun set hset =>
          (hwf set (List.mem_cons_of_mem _ hset)).contains_iff
      rw [← and_assoc, hcommon]
      simp [hinc]

/-- A planned item list is ascending. -/
theorem pairwise_planCustom (inc exc : List Int) : (planCustom s inc exc).Pairwise (· < ·) := by
  unfold planCustom
  split_ifs
  · exact .nil
  split
  · rename_i sets hmap
    split
    · rename_i base rest hsorted
      have hbase : SlotTable.WF hashId base := hs.wf_of_mem_includeSets hmap
        ((List.mergeSort_perm sets sizeLE).mem_iff.1 (hsorted ▸ List.mem_cons_self))
      exact pairwise_lt_mergeSort (hbase.nodup.filter _)
    · exact .nil
  · exact .nil

/-- The plan of a tag set depends only on which tags it includes and excludes, not on their
order or repetition. -/
theorem planCustom_congr {inc inc' exc exc' : List Int} (hinc : ∀ t, t ∈ inc ↔ t ∈ inc')
    (hexc : ∀ t, t ∈ exc ↔ t ∈ exc') : planCustom s inc exc = planCustom s inc' exc' := by
  have hne : inc ≠ [] ↔ inc' ≠ [] := by
    simp only [ne_eq, List.eq_nil_iff_forall_not_mem, hinc]
  refine List.Pairwise.eq_of_mem_iff (hs.pairwise_planCustom inc exc)
    (hs.pairwise_planCustom inc' exc') fun i => ?_
  rw [hs.mem_planCustom, hs.mem_planCustom, hne]
  simp only [hinc, hexc]

end Snapshot.Valid

theorem sectors_planCustomSector (s : Snapshot) (inc exc : List Int) :
    (planCustomSector s inc exc).sectors =
      if planCustom s inc exc = [] then [] else [⟨inc, planCustom s inc exc⟩] := by
  unfold planCustomSector
  split <;> simp_all

/-- What the plan of an explicit tag set promises: nothing without include tags or with an
include tag on no item; otherwise the items carrying every include tag and no exclude tag,
ascending, whatever the order and repeats of the two lists; and one sector, showing the include
tags as given, exactly when some item is planned. -/
structure CustomPlanSpec (s : Snapshot) (inc exc : List Int) : Prop where
  eq_nil : inc = [] ∨ (∃ t ∈ inc, (s.itemsWith t).getD [] = []) → planCustom s inc exc = []
  sorted : (planCustom s inc exc).Pairwise (· < ·)
  mem_iff : ∀ i, i ∈ planCustom s inc exc ↔
    inc ≠ [] ∧ (∀ t ∈ inc, i ∈ (s.itemsWith t).getD []) ∧ ∀ u ∈ exc, i ∉ (s.itemsWith u).getD []
  congr : ∀ inc' exc', (∀ t, t ∈ inc ↔ t ∈ inc') → (∀ u, u ∈ exc ↔ u ∈ exc') →
    planCustom s inc' exc' = planCustom s inc exc
  one_sector : (∃ sec, (planCustomSector s inc exc).sectors = [sec] ∧ sec.tags = inc ∧
    sec.items = planCustom s inc exc) ↔ planCustom s inc exc ≠ []
  no_sector : planCustom s inc exc = [] → (planCustomSector s inc exc).sectors = []

/-- The plan of an explicit tag set over every snapshot of applications is the ascending list of
the items holding all include tags and no exclude tag, empty without include tags or when one
of them is on no item, and it gives one sector with the include tags exactly when it is not
empty. -/
theorem custom_plan_spec (rows : List Application) (inc exc : List Int) :
    CustomPlanSpec (Snapshot.ofApplications rows) inc exc := by
  have hs := Snapshot.valid_ofApplications rows
  refine ⟨fun h => ?_, hs.pairwise_planCustom inc exc, hs.mem_planCustom inc exc,
    fun inc' exc' hinc hexc => hs.planCustom_congr (fun t => (hinc t).symm) fun u => (hexc u).symm,
    ?_, fun hnil => by rw [sectors_planCustomSector, if_pos hnil]⟩
  · -- no item holds every include tag
    refine List.eq_nil_iff_forall_not_mem.2 fun i hi => ?_
    obtain ⟨hne, hall, -⟩ := (hs.mem_planCustom inc exc i).1 hi
    rcases h with rfl | ⟨t, ht, hnil⟩
    · exact hne rfl
    · simpa [hnil] using hall t ht
  · rw [sectors_planCustomSector]
    split_ifs with hnil <;> simp [hnil]

end Plan

end TagAtlas
