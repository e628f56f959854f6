import TagAtlas.Corpus.Snapshot
/-! Candidate tags: the tags a plan works with, ranked by support. A tag's position in the
ranking is its dense index. Selection scans the first `3 · maxTags` tags of the support
ranking and keeps those that reach the least support; when fewer than `min 25 maxTags`
survive, it keeps the top of the scan regardless of support. -/
namespace TagAtlas

/-- A candidate tag and its support. -/
structure Candidate where
  tag : Int
  support : Nat
  deriving Repr, BEq, DecidableEq, Inhabited

/-- An index past the end of a sequence, as the run-time failure it would be. -/
structure OutOfRange where
  length : Nat
  index : Nat
  deriving Repr, DecidableEq

/-- The run-time failure message. -/
def OutOfRange.message (e : OutOfRange) : String :=
  "index out of bounds: the len is " ++ toString e.length ++ " but the index is " ++ toString e.index

/-- The candidate tags in dense-index order. -/
structure CandidateSet where
  tags : Array Candidate
  deriving Repr, Inhabited

namespace CandidateSet

/-- The number of candidates. -/
def size (c : CandidateSet) : Nat := c.tags.size

/-- The candidate at a dense index. -/
def get? (c : CandidateSet) (i : Nat) : Option Candidate := c.tags[i]?

/-- The candidate at a dense index, or the out-of-range failure. -/
def fetch (c : CandidateSet) (i : Nat) : Except OutOfRange Candidate :=
  match c.tags[i]? with
  | some t => .ok t
  | none => .error ⟨c.tags.size, i⟩

/-- The support at a dense index, zero past the end. -/
def supportAt (c : CandidateSet) (i : Nat) : Nat := ((c.get? i).map Candidate.support).getD 0

/-- The tag id at a dense index, zero past the end. -/
def tagAt (c : CandidateSet) (i : Nat) : Int := ((c.get? i).map Candidate.tag).getD 0

/-- The dense index of a tag id; when an id repeats, its last position. -/
def indexOf (c : CandidateSet) (tag : Int) : Option Nat :=
  (c.tags.toList.zipIdx.filter (fun (t, _) => t.tag == tag)).getLast?.map Prod.snd

/-- Each item that carries a candidate tag, ascending, with the dense indices of its candidate
tags, ascending and without repeats. -/
def memberships (c : CandidateSet) (s : Snapshot) : List (Int × List Nat) :=
  s.itemTags.filterMap fun (item, tags) =>
    match collapse ((tags.filterMap c.indexOf).mergeSort (· ≤ ·)) with
    | [] => none
    | dense => some (item, dense)

end CandidateSet

/-- Fewest candidates before selection falls back to the top of the ranking. -/
def minCandidates : Nat := 25

/-- Pick at most `maxTags` candidates reaching `minSupport`, falling back to the top of the scan. -/
def selectCandidates (s : Snapshot) (maxTags minSupport : Nat) : CandidateSet :=
  if s.isEmpty || maxTags == 0 then ⟨#[]⟩
  else
    let scanned := s.supportRanking.take (3 * maxTags)
    let picked := scanned.filter (fun e => e.2 ≥ minSupport)
    let chosen := if picked.length < min minCandidates maxTags then scanned.take maxTags else picked
    ⟨((chosen.take maxTags).map fun (t, n) => ⟨t, n⟩).toArray⟩

end TagAtlas
