import TagAtlas.Plan.Assign
import TagAtlas.Plan.Custom
import TagAtlas.Query.Params
/-! Planning the sectors of a snapshot for a query. The tagsets view places each item in one
component; the single view gives each candidate tag a sector; the overlap view builds macro
cores and triads. The plan carries the counts of its stages. -/
namespace TagAtlas

/-- Counts of a plan's stages. -/
structure PlanStats where
  totalItems : Nat := 0
  candidates : Nat := 0
  edges : Nat := 0
  components : Nat := 0
  deriving Repr, BEq, Inhabited

/-- The sectors of a plan and its counts. -/
structure SectorPlan where
  sectors : List PlannedSector := []
  stats : PlanStats := {}
  deriving Repr, Inhabited

/-- One sector per candidate tag with items, in candidate order, at most `maxSets`, each with
its items sorted ascending. -/
def singleTagSectors (s : Snapshot) (cands : CandidateSet) (maxSets : Nat) : List PlannedSector :=
  (cands.tags.toList.filterMap fun c =>
    (s.holders c.tag).map fun set => ⟨[c.tag], set.keys.mergeSort (· ≤ ·)⟩).take maxSets

/-- The tag ids shown for a component: its first `limit` members. -/
def displayTags (cands : CandidateSet) (members : List Nat) (limit : Nat) : List Int :=
  (members.take limit).map cands.tagAt

/-- The scored edges among the candidates of a snapshot. -/
def edgesOf (s : Snapshot) (cands : CandidateSet) (memberships : List (Int × List Nat))
    (t : Tuning) : List Edge :=
  match scoreEdges (PairCounts.count memberships) cands s.totalItems t with
  | .ok edges => edges
  | .error _ => []

/-- The stages a graph view works from: thresholds, candidates, memberships, edges and the
neighbour graph over all edges. -/
structure Stages where
  tuning : Tuning
  candidates : CandidateSet
  memberships : List (Int × List Nat)
  edges : List Edge
  graph : NeighborGraph

/-- The stages of a snapshot for a query. -/
def Stages.compute (s : Snapshot) (p : Params) : Stages :=
  let tuning := Tuning.derive p.consolidation p.overrides
  let cands := selectCandidates s p.maxTags tuning.minSupport
  let memberships := cands.memberships s
  let edges := edgesOf s cands memberships tuning
  { tuning, candidates := cands, memberships, edges
    graph := NeighborGraph.build cands.size edges tuning.k }

/-- The plan of a snapshot for a query; the custom view plans nothing here. At either end of
the consolidation the tagsets view needs no graph and scores no edge. -/
def planSectors (s : Snapshot) (p : Params) : SectorPlan :=
  let stats : PlanStats := { totalItems := s.totalItems }
  if s.isEmpty || p.view == .custom then { stats }
  else
    let tuning := Tuning.derive p.consolidation p.overrides
    let cands := selectCandidates s p.maxTags tuning.minSupport
    let stats := { stats with candidates := cands.size }
    if cands.size = 0 then { stats }
    else if p.view == .single then
      { sectors := singleTagSectors s cands tuning.maxSetsSingle, stats }
    else
      let memberships := cands.memberships s
      let skipsGraph := p.view == .tagsets && (tuning.forcesSingletons || tuning.forcesSingleComponent)
      let edges := if skipsGraph then [] else edgesOf s cands memberships tuning
      let graph := NeighborGraph.build cands.size edges tuning.k
      let stats := { stats with edges := edges.length }
      if p.view == .overlap then
        let components := mutualComponents cands graph
        let stats := { stats with components := components.length }
        match overlapSectors s cands graph tuning components with
        | .ok sectors => { sectors, stats }
        | .error _ => { stats }
      else
        let components := partition cands graph tuning
        let stats := { stats with components := components.length }
        let kept := components.take (3 * tuning.maxSets)
        let assigned := assignItems memberships kept cands
        let sectors := ((kept.zip assigned).filter (fun (_, items) => !items.isEmpty)).take tuning.maxSets
        { sectors := sectors.map fun (c, items) =>
            ⟨displayTags cands c.members tuning.maxSetSize, items.mergeSort (· ≤ ·)⟩
          stats }

/-- The single sector of explicit include and exclude tags, if it has items. -/
def planCustomSector (s : Snapshot) (includes excludes : List Int) : SectorPlan :=
  let stats : PlanStats := { totalItems := s.totalItems, candidates := includes.length }
  match planCustom s includes excludes with
  | [] => { stats }
  | items => { sectors := [⟨includes, items⟩], stats }

end TagAtlas
