import TagAtlas.Query.Scope
import TagAtlas.Query.Tuning
import TagAtlas.Numeral.Integer
import TagAtlas.Numeral.Real
/-! Query parameters. A query arrives as key–value text pairs; the first value of each known
key counts and unknown keys are ignored. Reading never fails: a value that does not parse
falls back to its default, a number outside its range is clamped into it. -/
namespace TagAtlas

/-- The raw text of each known query key. -/
structure RawQuery where
  namespace_ : Option String := none
  mode : Option String := none
  statusFilter : Option String := none
  view : Option String := none
  customTagset : Option String := none
  consolidation : Option String := none
  maxTags : Option String := none
  maxMappers : Option String := none
  minSupport : Option String := none
  minPair : Option String := none
  edgeThreshold : Option String := none
  k : Option String := none
  maxSets : Option String := none
  maxSetSize : Option String := none
  maxSeedCores : Option String := none
  macroSize : Option String := none
  maxSetsTotal : Option String := none
  triadScan : Option String := none
  deriving Inhabited

namespace RawQuery

/-- Keep the first value of a key. -/
def keep (slot : Option String) (value : String) : Option String := slot <|> some value

/-- Record one pair. -/
def add (q : RawQuery) (key value : String) : RawQuery :=
  match key with
  | "namespace" => { q with namespace_ := keep q.namespace_ value }
  | "mode" => { q with mode := keep q.mode value }
  | "status_filter" => { q with statusFilter := keep q.statusFilter value }
  | "view" => { q with view := keep q.view value }
  | "custom_tagset" => { q with customTagset := keep q.customTagset value }
  | "consolidation" => { q with consolidation := keep q.consolidation value }
  | "max_tags" => { q with maxTags := keep q.maxTags value }
  | "max_mappers" => { q with maxMappers := keep q.maxMappers value }
  | "min_support" => { q with minSupport := keep q.minSupport value }
  | "min_pair" => { q with minPair := keep q.minPair value }
  | "edge_threshold" => { q with edgeThreshold := keep q.edgeThreshold value }
  | "k" => { q with k := keep q.k value }
  | "max_sets" => { q with maxSets := keep q.maxSets value }
  | "max_set_size" => { q with maxSetSize := keep q.maxSetSize value }
  | "max_seed_cores" => { q with maxSeedCores := keep q.maxSeedCores value }
  | "macro_size" => { q with macroSize := keep q.macroSize value }
  | "max_sets_total" => { q with maxSetsTotal := keep q.maxSetsTotal value }
  | "triad_scan" => { q with triadScan := keep q.triadScan value }
  | _ => q

/-- The query of a list of pairs. -/
def ofPairs (pairs : List (String × String)) : RawQuery :=
  pairs.foldl (fun q (k, v) => q.add k v) {}

end RawQuery

/-- The default consolidation. -/
def defaultConsolidation : Float := 0.1

/-- A finite double read from trimmed text. -/
def readFinite (raw : Option String) : Option Float :=
  match raw with
  | some v =>
    match Numeral.readReal (Text.trim v) with
    | .ok x => if x.isNaN || x.isInf then none else some x
    | .error _ => none
  | none => none

/-- A 64-bit integer read from trimmed text. -/
def readWhole (raw : Option String) : Option Int :=
  match raw with
  | some v =>
    match Numeral.readInt .i64 (Text.trim v) with
    | .ok n => some n
    | .error _ => none
  | none => none

/-- A count clamped to `[lo, hi]`, negatives counting as zero, or the default. -/
def clampOr (value : Option Int) (default lo hi : Nat) : Nat :=
  match value with
  | some v => clampNat v.toNat lo hi
  | none => default

/-- The parameters of a query, all values in their ranges. -/
structure Params where
  namespace_ : Namespace := .osu
  statusFilter : StatusFilter := .ranked
  view : ViewMode := .tagsets
  customTagset : String := ""
  consolidation : Float := defaultConsolidation
  maxTags : Nat := 150
  maxMappers : Nat := 60
  overrides : Overrides := {}
  deriving Inhabited

namespace Params

/-- A finite consolidation clamped to `[0, 1]`; otherwise the default. -/
def sanitize (x : Float) : Float :=
  if x.isNaN || x.isInf then defaultConsolidation else clampFloat x 0.0 1.0

/-- The parameters of a raw query, with `fallback` as the consolidation when none is given. -/
def ofQuery (q : RawQuery) (fallback : Float) : Params :=
  let namespace_ := match q.namespace_ <|> q.mode with
    | some raw => Namespace.normalize raw
    | none => .osu
  let consolidation := match readFinite q.consolidation with
    | some v => clampFloat v 0.0 1.0
    | none => fallback
  { namespace_
    statusFilter := StatusFilter.parse q.statusFilter
    view := ViewMode.parse q.view
    customTagset := Text.trim (q.customTagset.getD "")
    consolidation := sanitize consolidation
    maxTags := clampOr (readWhole q.maxTags) 150 20 400
    maxMappers := clampOr (readWhole q.maxMappers) 60 10 200
    overrides :=
      { minSupport := readWhole q.minSupport
        minPair := readWhole q.minPair
        edgeThreshold := readFinite q.edgeThreshold
        k := readWhole q.k
        maxSets := readWhole q.maxSets
        maxSetSize := readWhole q.maxSetSize
        maxSeedCores := readWhole q.maxSeedCores
        macroSize := readWhole q.macroSize
        maxSetsTotal := readWhole q.maxSetsTotal
        triadScan := readWhole q.triadScan } }

/-- Whether the query asks for explicit tags. -/
def isCustom (p : Params) : Bool := !p.customTagset.isEmpty || p.view == .custom

end Params

end TagAtlas
