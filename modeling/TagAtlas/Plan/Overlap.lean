import TagAtlas.Plan.Components
/-! Overlapping sectors. Tag sets come first from macro cores (a seed tag with its mutual
neighbours inside its component, filled up from the component's strongest members), then
from triads (the two ends of a strong edge with a shared neighbour whose three tags have
enough items in common). A tag set is kept sorted, with at least two tags, once, and up to a
total. Each tag set becomes a sector of exactly the items that carry all its tags. -/
namespace TagAtlas

/-- A sector before names are resolved: tag ids in display order and item ids ascending. -/
structure PlannedSector where
  tags : List Int
  items : List Int
  deriving Repr, BEq, Inhabited

/-- The tag sets gathered so far, in generation order. -/
structure Cover where
  tagsets : List (List Nat) := []
  deriving Inhabited

namespace Cover

/-- Whether the cover has reached its total. -/
def isFull (c : Cover) (t : Tuning) : Bool := c.tagsets.length ≥ t.maxSetsTotal

/-- Add a tag set, sorted and without repeats, unless it is too small, the cover is full or the
set is already there. -/
def push (c : Cover) (t : Tuning) (tagset : List Nat) : Cover :=
  let sig := collapse (tagset.mergeSort (· ≤ ·))
  if sig.length < 2 || c.isFull t || c.tagsets.contains sig then c
  else { c with tagsets := c.tagsets ++ [sig] }

end Cover

/-- The item sets of the tags of a tag set, in order, stopping with `none` at the first tag
on no item; an index past the candidates before that point is the out-of-range failure. -/
def itemSets (s : Snapshot) (cands : CandidateSet) : List Nat → Except OutOfRange (Option (List IdSet))
  | [] => pure (some [])
  | i :: rest => do
    let c ← cands.fetch i
    match s.holders c.tag with
    | none => pure none
    | some items => do
      match ← itemSets s cands rest with
      | some sets => pure (some (items :: sets))
      | none => pure none

/-- Whether the first set is no larger than the second. -/
def sizeLE (a b : IdSet) : Bool := a.size ≤ b.size

/-- The items of the first set that every other set holds, in the order a walk over the first
set meets them. -/
def commonItems : List IdSet → List Int
  | [] => []
  | base :: rest => base.keys.filter fun i => rest.all (·.contains i (hashId i))

/-- The number of items carrying every tag of a tag set, counted over its smallest set; zero
when a tag has no items. -/
def intersectionLen (s : Snapshot) (cands : CandidateSet) (tagset : List Nat) :
    Except OutOfRange Nat := do
  match ← itemSets s cands tagset with
  | some sets => pure (commonItems (sets.mergeSort sizeLE)).length
  | none => pure 0

/-- The items carrying every tag of a tag set, gathered from its smallest set and sorted
ascending; empty when a tag has no items. -/
def intersection (s : Snapshot) (cands : CandidateSet) (tagset : List Nat) :
    Except OutOfRange (List Int) := do
  match ← itemSets s cands tagset with
  | some sets => pure ((commonItems (sets.mergeSort sizeLE)).mergeSort (· ≤ ·))
  | none => pure []

/-- A macro core around a seed within its component. -/
def macroCore (g : NeighborGraph) (t : Tuning) (seed : Nat) (comp : Component) : List Nat :=
  let core := (g.neighbors seed).foldl (fun core nb =>
    if core.length ≥ t.macroSize then core
    else if comp.contains nb.tag && g.isMutual seed nb.tag && !core.contains nb.tag then core ++ [nb.tag]
    else core) [seed]
  comp.members.foldl (fun core m =>
    if core.length ≥ t.macroSize then core
    else if core.contains m then core else core ++ [m]) core

/-- Macro cores for the first seeds that lie in some component. -/
def macroCores (g : NeighborGraph) (t : Tuning) (size : Nat) (components : List Component)
    (cover : Cover) : Cover :=
  (List.range (min t.maxSeedCores size)).foldl (fun cover seed =>
    if cover.isFull t then cover
    else match components.find? (·.contains seed) with
      | some comp => cover.push t (macroCore g t seed comp)
      | none => cover) cover

/-- The distinct edges among the first neighbours of every tag, strongest first. -/
def triadEdges (g : NeighborGraph) (t : Tuning) : List (Nat × Nat × Float × Nat) :=
  let found := (List.range g.size).foldl (fun acc a =>
    (g.neighbors a).take t.triadScan |>.foldl (fun acc nb =>
      let key := (min a nb.tag, max a nb.tag)
      if acc.any (fun e => (e.1, e.2.1) == key) then acc
      else acc ++ [(key.1, key.2, nb.npmi, nb.cooccurrence)]) acc) []
  let le (x y : Nat × Nat × Float × Nat) : Bool :=
    let kx := totalKey x.2.2.1
    let ky := totalKey y.2.2.1
    kx > ky || (kx == ky && (x.2.2.2 > y.2.2.2 || (x.2.2.2 == y.2.2.2 && natPairLE (x.1, x.2.1) (y.1, y.2.1))))
  found.mergeSort le

/-- The first shared neighbour of an edge that makes a new triad with enough common items. -/
def triadFor (s : Snapshot) (cands : CandidateSet) (g : NeighborGraph) (t : Tuning)
    (cover : Cover) (a b : Nat) : Except OutOfRange (Option (List Nat)) :=
  (g.sharedNeighbors a b).foldlM (fun found c =>
    match found with
    | some _ => pure found
    | none =>
      let sig := [a, b, c].mergeSort (· ≤ ·)
      if cover.tagsets.contains sig then pure none
      else do
        let common ← intersectionLen s cands sig
        pure (if common ≥ t.minPair then some sig else none)) none

/-- Triads from the strongest edges on, until the cover is full. -/
def triads (s : Snapshot) (cands : CandidateSet) (g : NeighborGraph) (t : Tuning) (cover : Cover) :
    Except OutOfRange Cover :=
  (triadEdges g t).foldlM (fun cover (a, b, _, _) =>
    if cover.isFull t then pure cover
    else do
      match ← triadFor s cands g t cover a b with
      | some sig => pure (cover.push t sig)
      | none => pure cover) cover

/-- The overlapping sectors: macro cores, then triads, each with its exact common items;
tag sets with no common item are dropped. -/
def overlapSectors (s : Snapshot) (cands : CandidateSet) (g : NeighborGraph) (t : Tuning)
    (components : List Component) : Except OutOfRange (List PlannedSector) := do
  let cover := macroCores g t cands.size components {}
  let cover ← triads s cands g t cover
  let sectors ← cover.tagsets.mapM fun tagset => do
    let items ← intersection s cands tagset
    if items.isEmpty then pure none
    else do
      let tags ← tagset.mapM fun i => (·.tag) <$> cands.fetch i
      pure (some ⟨tags, items⟩)
  pure sectors.reduceOption

end TagAtlas
