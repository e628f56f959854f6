import TagAtlas.Plan.Association
/-! The neighbour graph: for every tag its `k` strongest neighbours. Neighbours are ordered by
score descending in the total order of doubles (negative zero below zero, a not-a-number
above every number), then by co-occurrence descending, then by index ascending. Two tags are
mutual neighbours when each lists the other. -/
namespace TagAtlas

/-- The key of a double in its total order: the bits read as a signed number, with the
magnitude bits of negative values reversed. -/
def totalKey (x : Float) : Int :=
  let b := x.toBits.toNat
  if b ≥ Nat.pow 2 63 then -((b - Nat.pow 2 63 : Nat) : Int) - 1 else b

/-- One neighbour of a tag. -/
structure Neighbor where
  tag : Nat
  npmi : Float
  cooccurrence : Nat
  deriving Inhabited

namespace Neighbor

/-- Whether `x` is at least as strong as `y`. -/
def strongerEq (x y : Neighbor) : Bool :=
  let kx := totalKey x.npmi
  let ky := totalKey y.npmi
  kx > ky || (kx == ky && (x.cooccurrence > y.cooccurrence ||
    (x.cooccurrence == y.cooccurrence && x.tag ≤ y.tag)))

end Neighbor

/-- Every tag's strongest neighbours, strongest first. -/
structure NeighborGraph where
  lists : Array (List Neighbor)
  deriving Inhabited

namespace NeighborGraph

/-- Add an edge to the lists of both ends, skipping loops and ends past `tagCount`. -/
def addEdge (tagCount : Nat) (lists : Array (List Neighbor)) (e : Edge) : Array (List Neighbor) :=
  if e.a ≥ tagCount || e.b ≥ tagCount || e.a == e.b then lists
  else
    let lists := lists.modify e.a (· ++ [⟨e.b, e.npmi, e.cooccurrence⟩])
    lists.modify e.b (· ++ [⟨e.a, e.npmi, e.cooccurrence⟩])

/-- The graph of `tagCount` tags keeping the `k` strongest neighbours of each. -/
def build (tagCount : Nat) (edges : List Edge) (k : Nat) : NeighborGraph :=
  let lists := edges.foldl (addEdge tagCount) (Array.replicate tagCount [])
  ⟨lists.map fun l => (l.mergeSort Neighbor.strongerEq).take k⟩

/-- The number of tags. -/
def size (g : NeighborGraph) : Nat := g.lists.size

/-- The neighbours of a tag, strongest first; none past the end. -/
def neighbors (g : NeighborGraph) (tag : Nat) : List Neighbor := g.lists[tag]?.getD []

/-- Whether `other` is among the neighbours of `tag`. -/
def contains (g : NeighborGraph) (tag other : Nat) : Bool :=
  (g.neighbors tag).any (·.tag == other)

/-- Whether two distinct tags list each other. -/
def isMutual (g : NeighborGraph) (a b : Nat) : Bool := a != b && g.contains a b && g.contains b a

/-- The neighbours of `a`, other than `a` and `b`, that `b` lists too, by the sum of their two
scores descending, then by index ascending. -/
def sharedNeighbors (g : NeighborGraph) (a b : Nat) : List Nat :=
  let scored := (g.neighbors a).filterMap fun n =>
    if n.tag != b && g.contains b n.tag && n.tag != a then
      let viaB := (((g.neighbors b).find? (·.tag == n.tag)).map Neighbor.npmi).getD 0.0
      some (n.tag, n.npmi + viaB)
    else none
  let le (x y : Nat × Float) : Bool :=
    let kx := totalKey x.2
    let ky := totalKey y.2
    kx > ky || (kx == ky && x.1 ≤ y.1)
  (scored.mergeSort le).map Prod.fst

/-- The number of listed neighbours over all tags. -/
def directedEdgeCount (g : NeighborGraph) : Nat := g.lists.foldl (fun n l => n + l.length) 0

end NeighborGraph

end TagAtlas
