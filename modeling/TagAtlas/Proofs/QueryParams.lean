import TagAtlas.Proofs.Clamping
import TagAtlas.Query.Params
/-! Reading the parameters of a query. Of the key–value pairs of a query, each key the query
reads keeps its first value, so appending pairs for keys already given, or inserting pairs for
keys it does not read, changes nothing. Reading never fails: the consolidation is a finite
double in `[0, 1]`, the first value's reading clamped there when it is finite, else the
fallback clamped when that is finite, else the default; the counts are clamped to their ranges
or take their defaults; the overrides are the readings of their first values, the threshold
only when finite. Main statement: `params_of_pairs`. -/
namespace TagAtlas

namespace RawQuery

/-- The keys a query reads. -/
def keys : List String :=
  ["namespace", "mode", "status_filter", "view", "custom_tagset", "consolidation", "max_tags",
    "max_mappers", "min_support", "min_pair", "edge_threshold", "k", "max_sets", "max_set_size",
    "max_seed_cores", "macro_size", "max_sets_total", "triad_scan"]

/-- The query holding, for each key it reads, the first value the pairs give it. -/
def firstValues (pairs : List (String × String)) : RawQuery :=
  { namespace_ := pairs.lookup "namespace", mode := pairs.lookup "mode"
    statusFilter := pairs.lookup "status_filter", view := pairs.lookup "view"
    customTagset := pairs.lookup "custom_tagset", consolidation := pairs.lookup "consolidation"
    maxTags := pairs.lookup "max_tags", maxMappers := pairs.lookup "max_mappers"
    minSupport := pairs.lookup "min_support", minPair := pairs.lookup "min_pair"
    edgeThreshold := pairs.lookup "edge_threshold", k := pairs.lookup "k"
    maxSets := pairs.lookup "max_sets", maxSetSize := pairs.lookup "max_set_size"
    maxSeedCores := pairs.lookup "max_seed_cores", macroSize := pairs.lookup "macro_size"
    maxSetsTotal := pairs.lookup "max_sets_total", triadScan := pairs.lookup "triad_scan" }

section FirstValue

variable {pairs extra : List (String × String)}

theorem lookup_concat_of_ne {key k : String} (value : String) (h : key ≠ k) :
    (pairs ++ [(key, value)]).lookup k = pairs.lookup k := by
  rw [List.lookup_append, List.lookup_singleton]
  simp [Ne.symm h]

theorem lookup_concat_self (key value : String) :
    (pairs ++ [(key, value)]).lookup key = keep (pairs.lookup key) value := by
  rw [List.lookup_append, List.lookup_singleton]
  cases pairs.lookup key <;> simp [keep]

/-- A pair added last fills its key's slot only when the slot is still empty. -/
theorem firstValues_concat (key value : String) :
    firstValues (pairs ++ [(key, value)]) = (firstValues pairs).add key value := by
  -- one case per key the query reads, and one for every other key
  unfold add
  split <;> simp_all [firstValues, lookup_concat_of_ne, lookup_concat_self]

/-- Each slot of a query read from pairs holds the first value of its key. -/
theorem ofPairs_eq_firstValues (pairs : List (String × String)) :
    ofPairs pairs = firstValues pairs := by
  induction pairs using List.reverseRecOn with
  | nil => rfl
  | append_singleton ps kv ih =>
    obtain ⟨key, value⟩ := kv
    rw [firstValues_concat, ← ih]
    simp only [ofPairs, List.foldl_append, List.foldl_cons, List.foldl_nil]

theorem lookup_append_of_seen (h : ∀ kv ∈ extra, kv.1 ∈ pairs.map Prod.fst) (k : String) :
    (pairs ++ extra).lookup k = pairs.lookup k := by
  rw [List.lookup_append]
  cases hk : pairs.lookup k with
  | some v => rfl
  | none =>
    rw [Option.none_or, List.lookup_eq_none_iff]
    rw [List.lookup_eq_none_iff] at hk
    intro kv hkv
    obtain ⟨p, hp, hpk⟩ := List.mem_map.1 (h kv hkv)
    rw [← hpk]
    exact hk p hp

/-- Pairs for keys already given change no slot. -/
theorem firstValues_append_seen (h : ∀ kv ∈ extra, kv.1 ∈ pairs.map Prod.fst) :
    firstValues (pairs ++ extra) = firstValues pairs := by
  simp only [firstValues, lookup_append_of_seen h]

theorem lookup_insert_of_not_key {l₁ l₂ : List (String × String)} {k : String} (hk : k ∈ keys)
    (h : ∀ kv ∈ extra, kv.1 ∉ keys) : (l₁ ++ extra ++ l₂).lookup k = (l₁ ++ l₂).lookup k := by
  have hnone : extra.lookup k = none := by
    rw [List.lookup_eq_none_iff]
    intro kv hkv
    rw [bne_iff_ne]
    rintro rfl
    exact h kv hkv hk
  rw [List.lookup_append, List.lookup_append, List.lookup_append, hnone, Option.or_none]

/-- Pairs for keys the query does not read change no slot, wherever they stand. -/
theorem firstValues_insert_unknown (l₁ l₂ : List (String × String))
    (h : ∀ kv ∈ extra, kv.1 ∉ keys) : firstValues (l₁ ++ extra ++ l₂) = firstValues (l₁ ++ l₂) := by
  simp only [firstValues]
  congr 1 <;> exact lookup_insert_of_not_key (by simp [keys]) h

end FirstValue

end RawQuery

section Values

theorem isFinite_of_readFinite {raw : Option String} {x : Float} (h : readFinite raw = some x) :
    x.isFinite = true := by
  unfold readFinite at h
  split at h
  · split at h
    · split at h
      · cases h
      · rename_i hbad
        cases h
        rw [isFinite_eq, Bool.not_eq_true', Bool.eq_false_iff]
        exact hbad
    · cases h
  · cases h

theorem zero_le_one_float : (0.0 : Float) ≤ 1.0 := by decide

/-- The consolidation kept after the fallback: finite and in `[0, 1]`. -/
theorem sanitize_mem (x : Float) :
    (Params.sanitize x).isFinite = true ∧ 0.0 ≤ Params.sanitize x ∧ Params.sanitize x ≤ 1.0 := by
  unfold Params.sanitize
  split
  · exact ⟨by decide, by decide, by decide⟩
  · rename_i hgood
    have hx : x.isNaN = false := (Bool.or_eq_false_iff.1 (Bool.eq_false_iff.2 hgood)).1
    exact ⟨isFinite_clampFloat hx (by decide) (by decide) zero_le_one_float,
      clampFloat_mem hx (by decide) (by decide) zero_le_one_float⟩

/-- The consolidation of a query: its finite reading clamped to `[0, 1]`; failing that the
fallback clamped when finite, else the default. A clamped reading is not clamped twice over. -/
theorem consolidation_ofQuery (q : RawQuery) (d : Float) :
    (Params.ofQuery q d).consolidation = (readFinite q.consolidation).elim
      (if d.isFinite then clampFloat d 0.0 1.0 else defaultConsolidation) (clampFloat · 0.0 1.0) := by
  simp only [Params.ofQuery]
  cases h : readFinite q.consolidation with
  | none =>
    simp only [Option.elim, Params.sanitize, isFinite_eq]
    cases d.isNaN || d.isInf <;> rfl
  | some x =>
    have hx := isNaN_eq_false_of_isFinite (isFinite_of_readFinite h)
    have hmem := clampFloat_mem hx (by decide) (by decide) zero_le_one_float
    have hfin := isFinite_clampFloat hx (by decide) (by decide) zero_le_one_float
    have hgood : ((clampFloat x 0.0 1.0).isNaN || (clampFloat x 0.0 1.0).isInf) = false := by
      rw [isFinite_eq, Bool.not_eq_true'] at hfin
      exact hfin
    simp only [Option.elim, Params.sanitize, hgood, Bool.false_eq_true, if_false]
    exact clampFloat_of_mem hmem.1 hmem.2

theorem consolidation_ofQuery_mem (q : RawQuery) (d : Float) :
    (Params.ofQuery q d).consolidation.isFinite = true ∧ 0.0 ≤ (Params.ofQuery q d).consolidation ∧
      (Params.ofQuery q d).consolidation ≤ 1.0 := by
  simp only [Params.ofQuery]
  exact sanitize_mem _

theorem clampOr_mem {lo hi default : Nat} (value : Option Int) (h : lo ≤ hi)
    (hd : lo ≤ default ∧ default ≤ hi) : lo ≤ clampOr value default lo hi ∧ clampOr value default lo hi ≤ hi := by
  cases value with
  | none => exact hd
  | some v => exact clampNat_mem v.toNat h

theorem clampOr_eq_elim (value : Option Int) (default lo hi : Nat) :
    clampOr value default lo hi = value.elim default fun n => clampNat n.toNat lo hi := by
  cases value <;> rfl

end Values

/-- The parameters read from a query's pairs. Reading never fails and takes the first value of
each key. The consolidation is finite and in `[0, 1]`: the first value read as a double and
clamped when that is finite, else the fallback clamped when finite, else the default. The tag
and maker limits are the first values read as 64-bit integers, negatives counting as zero,
clamped to `[20, 400]` and `[10, 200]`, or 150 and 60 when they do not read. Each override is
the reading of its key's first value, the threshold only when finite. The namespace is read from
the first namespace value, else from the first mode value. Appending pairs for keys already
given, or inserting pairs for keys the query does not read, leaves the parameters as they are. -/
theorem params_of_pairs (pairs : List (String × String)) (d : Float) :
    let p := Params.ofQuery (RawQuery.ofPairs pairs) d
    (p.consolidation.isFinite = true ∧ 0.0 ≤ p.consolidation ∧ p.consolidation ≤ 1.0) ∧
      p.consolidation = (readFinite (pairs.lookup "consolidation")).elim
        (if d.isFinite then clampFloat d 0.0 1.0 else defaultConsolidation) (clampFloat · 0.0 1.0) ∧
      (20 ≤ p.maxTags ∧ p.maxTags ≤ 400) ∧
      p.maxTags = (readWhole (pairs.lookup "max_tags")).elim 150 (fun n => clampNat n.toNat 20 400) ∧
      (10 ≤ p.maxMappers ∧ p.maxMappers ≤ 200) ∧
      p.maxMappers = (readWhole (pairs.lookup "max_mappers")).elim 60
        (fun n => clampNat n.toNat 10 200) ∧
      p.overrides =
        { minSupport := readWhole (pairs.lookup "min_support")
          minPair := readWhole (pairs.lookup "min_pair")
          edgeThreshold := readFinite (pairs.lookup "edge_threshold")
          k := readWhole (pairs.lookup "k")
          maxSets := readWhole (pairs.lookup "max_sets")
          maxSetSize := readWhole (pairs.lookup "max_set_size")
          maxSeedCores := readWhole (pairs.lookup "max_seed_cores")
          macroSize := readWhole (pairs.lookup "macro_size")
          maxSetsTotal := readWhole (pairs.lookup "max_sets_total")
          triadScan := readWhole (pairs.lookup "triad_scan") } ∧
      (∀ x ∈ p.overrides.edgeThreshold, x.isFinite = true) ∧
      p.namespace_ =
        (((pairs.lookup "namespace").or (pairs.lookup "mode")).map Namespace.normalize).getD .osu ∧
      (∀ extra : List (String × String), (∀ kv ∈ extra, kv.1 ∈ pairs.map Prod.fst) →
        Params.ofQuery (RawQuery.ofPairs (pairs ++ extra)) d = p) ∧
      (∀ l₁ l₂ extra : List (String × String), pairs = l₁ ++ l₂ →
        (∀ kv ∈ extra, kv.1 ∉ RawQuery.keys) →
        Params.ofQuery (RawQuery.ofPairs (l₁ ++ extra ++ l₂)) d = p) := by
  dsimp only
  rw [RawQuery.ofPairs_eq_firstValues]
  refine ⟨consolidation_ofQuery_mem _ _, consolidation_ofQuery _ _, ?_, ?_, ?_, ?_, rfl,
    fun x hx => isFinite_of_readFinite hx, ?_, ?_, ?_⟩
  · simp only [Params.ofQuery]
    exact clampOr_mem _ (by decide) (by decide)
  · simp only [Params.ofQuery]
    exact clampOr_eq_elim _ _ _ _
  · simp only [Params.ofQuery]
    exact clampOr_mem _ (by decide) (by decide)
  · simp only [Params.ofQuery]
    exact clampOr_eq_elim _ _ _ _
  · simp only [Params.ofQuery, RawQuery.firstValues]
    -- `rfl` would unfold the reading of the namespace itself; only the choice of value differs
    cases pairs.lookup "namespace" <;> cases pairs.lookup "mode" <;> simp
  · intro extra hextra
    rw [RawQuery.ofPairs_eq_firstValues, RawQuery.firstValues_append_seen hextra]
  · intro l₁ l₂ extra hsplit hextra
    rw [RawQuery.ofPairs_eq_firstValues, RawQuery.firstValues_insert_unknown l₁ l₂ hextra, hsplit]

/-- A repeated key keeps its first value. -/
theorem params_of_pairs_repeated_key :
    Params.ofQuery (RawQuery.ofPairs ([("max_tags", "50"), ("view", "single")] ++
        [("max_tags", "60")])) 0.1 =
      Params.ofQuery (RawQuery.ofPairs [("max_tags", "50"), ("view", "single")]) 0.1 :=
  (params_of_pairs [("max_tags", "50"), ("view", "single")] 0.1).2.2.2.2.2.2.2.2.2.1
    [("max_tags", "60")] (by decide)

end TagAtlas
