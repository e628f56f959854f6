import TagAtlas.Plan.Candidates
import TagAtlas.Query.Tuning
import TagAtlas.Table.Slots
/-! Co-occurrence of candidate tags and their association score. Pair counts count, for every
item, every pair of positions in its list of dense indices, keyed as the pair appears. The
counts are kept in a hashed table, and a walk over it meets the pairs in slot order. The
score is the normalised pointwise mutual information of two tags, and an edge joins two
tags that co-occur often enough and score at least the threshold. -/
namespace TagAtlas

/-- Co-occurrence counts keyed by the pair as it appears: sorted by key, and in the order a
walk over the table of counts meets them. -/
structure PairCounts where
  counts : List ((Nat × Nat) × Nat)
  walk : List ((Nat × Nat) × Nat)
  deriving Repr

/-- Lexicographic order on pairs of naturals. -/
def natPairLE (a b : Nat × Nat) : Bool := a.1 < b.1 || (a.1 == b.1 && a.2 ≤ b.2)

/-- Run lengths of equal neighbours in a sorted list. -/
def runLengths : List (Nat × Nat) → List ((Nat × Nat) × Nat)
  | [] => []
  | p :: rest =>
    match runLengths rest with
    | (q, n) :: more => if p == q then (q, n + 1) :: more else (p, 1) :: (q, n) :: more
    | [] => [(p, 1)]

/-- The ordered pairs of positions `i < j` of a list. -/
def orderedPairs : List Nat → List (Nat × Nat)
  | [] => []
  | a :: rest => rest.map (fun b => (a, b)) ++ orderedPairs rest

namespace PairCounts

/-- The counts of a sequence of pairs, in the order a walk over a table that counted them one by
one meets them. -/
def tally (pairs : List (Nat × Nat)) : List ((Nat × Nat) × Nat) :=
  (pairs.foldl (fun t p => t.upsert p (hashPair p) fun c => c.getD 0 + 1) ({} : SlotTable _ Nat)).walk

/-- Count the pairs of every membership list with at least two entries. -/
def count (memberships : List (Int × List Nat)) : PairCounts :=
  let pairs := memberships.flatMap fun (_, tags) => orderedPairs tags
  ⟨runLengths (pairs.mergeSort natPairLE), tally pairs⟩

/-- The count of an unordered pair, looked up as `(min, max)`. -/
def get (p : PairCounts) (a b : Nat) : Nat := (p.counts.lookup (min a b, max a b)).getD 0

/-- The number of stored keys. -/
def size (p : PairCounts) : Nat := p.counts.length

end PairCounts

/-- An association edge between two dense indices. -/
structure Edge where
  a : Nat
  b : Nat
  cooccurrence : Nat
  npmi : Float
  deriving Inhabited

/-- The small constant that keeps logarithms finite. -/
def npmiEpsilon : Float := 1e-12

/-- The normalised pointwise mutual information of two tags seen together `c` times among `n`
items, with supports `sa` and `sb`; `none` when a count is zero or the score is not finite. -/
def npmi (c sa sb n : Nat) : Option Float :=
  if n == 0 || c == 0 || sa == 0 || sb == 0 then none
  else
    let total := n.toFloat
    let pab := c.toFloat / total
    let pa := sa.toFloat / total
    let pb := sb.toFloat / total
    let pmi := ((pab + npmiEpsilon) / (pa * pb + npmiEpsilon)).log
    let denom := -(pab + npmiEpsilon).log
    let score := if denom > 0.0 then pmi / denom else 0.0
    if score.isNaN || score.isInf then none else some score

/-- The edges among the counted pairs: enough co-occurrence, then a high enough score. A pair
with enough co-occurrence and an index past the candidates is the out-of-range failure; of
several, the first the walk over the counts meets is reported, at its first index past the
candidates. -/
def scoreEdges (pairs : PairCounts) (cands : CandidateSet) (total : Nat) (t : Tuning) :
    Except OutOfRange (List Edge) :=
  let n := cands.tags.size
  let outside (entry : (Nat × Nat) × Nat) : Bool :=
    entry.2 ≥ t.minPair && (entry.1.1 ≥ n || entry.1.2 ≥ n)
  let step (acc : List Edge) (entry : (Nat × Nat) × Nat) : Except OutOfRange (List Edge) :=
    let ((a, b), count) := entry
    if count ≥ t.minPair then do
      let ca ← cands.fetch a
      let cb ← cands.fetch b
      match npmi count ca.support cb.support total with
      | some score => pure (if score ≥ t.edgeThreshold then ⟨a, b, count, score⟩ :: acc else acc)
      | none => pure acc
    else pure acc
  if pairs.counts.any outside then
    .error (match (pairs.walk ++ pairs.counts).find? outside with
      | some ((a, b), _) => ⟨n, if a ≥ n then a else b⟩
      | none => ⟨n, n⟩)
  else (List.foldlM step [] pairs.counts).map List.reverse

end TagAtlas
