import TagAtlas.Plan.Neighbors
/-! Components of candidate tags. Mutual components join two tags whenever they are mutual
neighbours, and put every other tag alone; they are listed by mass (the sum of their
members' supports) descending, then by anchor (smallest member) ascending. A partition
follows the consolidation: every tag alone at the low end, all tags together at the high
end, mutual components in between. -/
namespace TagAtlas

/-- Tags joined into one component, members ascending, with the sum of their supports. -/
structure Component where
  members : List Nat
  mass : Nat
  deriving Repr, BEq, Inhabited

namespace Component

/-- The component of some members, sorted, with their mass. -/
def ofMembers (cands : CandidateSet) (members : List Nat) : Component :=
  let sorted := members.mergeSort (· ≤ ·)
  ⟨sorted, (sorted.map cands.supportAt).foldl (· + ·) 0⟩

/-- The smallest member, the strongest tag. -/
def anchor (c : Component) : Nat := c.members.head?.getD (Nat.pow 2 64 - 1)

/-- Binary search for a member in the member list, read as sorted: the window `[base, base +
size)` is halved until one entry is left, which is then compared. -/
def contains (c : Component) (tag : Nat) : Bool :=
  let arr := c.members.toArray
  let rec narrow (base size : Nat) : Nat :=
    if size ≤ 1 then base
    else
      let half := size / 2
      let mid := base + half
      narrow (if arr.getD mid 0 > tag then base else mid) (size - half)
  termination_by size
  decreasing_by omega
  if arr.size = 0 then false else arr.getD (narrow 0 arr.size) 0 == tag

/-- Whether `x` comes before `y`: more mass first, then the smaller anchor. -/
def before (x y : Component) : Bool :=
  x.mass > y.mass || (x.mass == y.mass && x.anchor ≤ y.anchor)

end Component

/-- Merge the groups holding `a` and `b` into one. -/
def linkGroups (groups : List (List Nat)) (a b : Nat) : List (List Nat) :=
  match groups.find? (·.contains a), groups.find? (·.contains b) with
  | some ga, some gb =>
    if ga.contains b then groups
    else (ga ++ gb) :: groups.filter (fun g => !(g.contains a || g.contains b))
  | _, _ => groups

/-- The groups of the tags `0 … n-1` joined by the mutual pairs of the graph. -/
def mutualGroups (n : Nat) (g : NeighborGraph) : List (List Nat) :=
  let links := (List.range (min n g.size)).flatMap fun a =>
    ((g.neighbors a).filter (fun nb => g.isMutual a nb.tag)).map fun nb => (a, nb.tag)
  links.foldl (fun gs (a, b) => linkGroups gs a b) ((List.range n).map fun i => [i])

/-- Mutual components by mass descending, then anchor ascending. -/
def mutualComponents (cands : CandidateSet) (g : NeighborGraph) : List Component :=
  ((mutualGroups cands.size g).map (Component.ofMembers cands)).mergeSort Component.before

/-- Components as the consolidation asks. -/
def partition (cands : CandidateSet) (g : NeighborGraph) (t : Tuning) : List Component :=
  if cands.size = 0 then []
  else if t.forcesSingletons then (List.range cands.size).map fun i => Component.ofMembers cands [i]
  else if t.forcesSingleComponent then [Component.ofMembers cands (List.range cands.size)]
  else mutualComponents cands g

end TagAtlas
