import TagAtlas.Plan.Components
/-! Placing each item in one component. A tag belongs to the last component that lists it.
One buffer of score slots, one per component, serves every item: an item adds the weight of
each of its tags into the slot of the tag's owner, in the order the tags are listed, rarer tags
weighing more, and remembers which components it touched. It goes to the touched component
with the highest score, the lowest index on a tie; then the slots it touched are cleared for
the next item. Items with no owned tag go nowhere. -/
namespace TagAtlas

/-- The weight of a tag of some support: the inverse logarithm of `2 + support`, the logarithm
held at least `1e-6`; a logarithm that is not a number gives way to the floor too. -/
def tagWeight (support : Nat) : Float :=
  let l := (2.0 + support.toFloat).log
  1.0 / (if 1e-6 ≤ l then l else 1e-6)

/-- The owning component of each dense index: the last component that lists it. -/
def owners (size : Nat) (components : List Component) : Array (Option Nat) :=
  components.zipIdx.foldl (fun acc (c, idx) =>
    c.members.foldl (fun acc tag => if tag < size then acc.set! tag (some idx) else acc) acc)
    (Array.replicate size none)

/-- The weight of each candidate, by dense index. -/
def CandidateSet.weights (cands : CandidateSet) : Array Float :=
  cands.tags.map fun t => tagWeight t.support

/-- The score slots of the components, and the components the current item has touched, in
the order it first touched them. -/
structure ScoreBuffer where
  scores : Array Float
  touched : List Nat

namespace ScoreBuffer

/-- Slots for `n` components, all zero, with nothing touched. -/
def clear (n : Nat) : ScoreBuffer := ⟨Array.replicate n 0.0, []⟩

/-- One tag of an item: its weight goes into the slot of its owner, which is now touched. -/
def addTag (owner : Array (Option Nat)) (weights : Array Float) (buf : ScoreBuffer) (tag : Nat) :
    ScoreBuffer :=
  match owner[tag]?.getD none with
  | some c =>
    { scores := buf.scores.modify c (· + weights.getD tag 0.0)
      touched := if buf.touched.contains c then buf.touched else buf.touched ++ [c] }
  | none => buf

/-- The touched component with the highest score: the touched components are scanned by index,
and a later one takes over only with a strictly higher score, so the lowest index wins a tie.
Nothing is chosen when nothing was touched. -/
def best (buf : ScoreBuffer) : Option Nat :=
  match buf.touched.mergeSort (· ≤ ·) with
  | [] => none
  | first :: rest =>
    some (rest.foldl (fun b c => if buf.scores.getD c 0.0 > buf.scores.getD b 0.0 then c else b) first)

/-- Clear the touched slots and forget them. -/
def release (buf : ScoreBuffer) : ScoreBuffer :=
  ⟨buf.touched.foldl (fun s c => s.set! c 0.0) buf.scores, []⟩

end ScoreBuffer

/-- The placement loop: the items placed so far in each component, and the shared buffer. -/
structure AssignState where
  assigned : Array (List Int)
  buffer : ScoreBuffer

/-- Place one item: its tags go into the buffer; if it touched a component, it joins the best
one and the slots it touched are released. -/
def assignStep (owner : Array (Option Nat)) (weights : Array Float) (st : AssignState)
    (entry : Int × List Nat) : AssignState :=
  let buffer := entry.2.foldl (ScoreBuffer.addTag owner weights) st.buffer
  match buffer.best with
  | none => { st with buffer }
  | some c => ⟨st.assigned.modify c (· ++ [entry.1]), buffer.release⟩

/-- The placement loop run over memberships, from empty components and a clear buffer. -/
def assignRun (memberships : List (Int × List Nat)) (components : List Component)
    (cands : CandidateSet) : AssignState :=
  memberships.foldl (assignStep (owners cands.size components) cands.weights)
    ⟨Array.replicate components.length [], ScoreBuffer.clear components.length⟩

/-- The items placed in each component, in membership order. -/
def assignItems (memberships : List (Int × List Nat)) (components : List Component)
    (cands : CandidateSet) : List (List Int) :=
  (assignRun memberships components cands).assigned.toList

end TagAtlas
