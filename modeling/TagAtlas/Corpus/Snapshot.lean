import TagAtlas.Corpus.Record
import TagAtlas.Table.Slots
/-! A snapshot of a corpus: which tags each item carries and which items each tag has, built
from the counted applications only. Both indexes are hashed tables filled row by row, so where
a key sits, and the order in which a walk meets the keys, depends on the order of the rows. An
item's tags are kept once each and sorted when every row is in; a tag's items form a set.
Readers that list items or tags sort what they read. -/
namespace TagAtlas

/-- Drop each element equal to the one before it. -/
def collapse {α : Type} [BEq α] : List α → List α
  | [] => []
  | [a] => [a]
  | a :: b :: rest => if a == b then collapse (b :: rest) else a :: collapse (b :: rest)

/-- A set of ids: a table of ids without values. -/
abbrev IdSet := SlotTable Int Unit

/-- A corpus snapshot: the tags of each item and the items of each tag. -/
structure Snapshot where
  /-- Each item with its tags, in the order the rows brought them until the snapshot is
  finished, ascending after. -/
  itemTable : SlotTable Int (List Int) := {}
  /-- Each tag with the set of items that carry it. -/
  tagTable : SlotTable Int IdSet := {}

namespace Snapshot

/-- Take in one counted row: the item joins the tag's set, the tag first entering with an empty
set if it is new, and when the item was not in the set yet, the tag joins the item's tags. -/
def addRow (s : Snapshot) (item tag : Int) : Snapshot :=
  let isNew := !((s.tagTable.get? tag (hashId tag)).getD {}).contains item (hashId item)
  let tagTable := s.tagTable.upsert tag (hashId tag) fun set =>
    (set.getD {}).insert item (hashId item) ()
  if isNew then
    { itemTable := s.itemTable.upsert item (hashId item) fun tags => tags.getD [] ++ [tag],
      tagTable }
  else { s with tagTable }

/-- The snapshot of the rows that count as membership, taken in order, with each item's tags
sorted at the end. -/
def ofApplications (rows : List Application) : Snapshot :=
  let built := (rows.filter Application.counts).foldl
    (fun (s : Snapshot) (r : Application) => s.addRow r.item r.tag) {}
  { built with itemTable := built.itemTable.mapValues fun tags => tags.mergeSort (· ≤ ·) }

/-- The snapshot of (item, tag) pairs read as predicted rows, all of which count. -/
def ofPairs (pairs : List (Int × Int)) : Snapshot :=
  ofApplications (pairs.map fun p => Application.prediction p.1 p.2)

/-- The number of items with at least one tag: the keys the item table holds. -/
def totalItems (s : Snapshot) : Nat := s.itemTable.keys.length

/-- Whether no item has a tag. -/
def isEmpty (s : Snapshot) : Bool := s.totalItems == 0

/-- The set of items that carry a tag, or `none` for a tag on no item. -/
def holders (s : Snapshot) (tag : Int) : Option IdSet := s.tagTable.get? tag (hashId tag)

/-- The items that carry a tag, in the order a walk over its set meets them. -/
def itemsWith (s : Snapshot) (tag : Int) : Option (List Int) := (s.holders tag).map SlotTable.keys

/-- The number of items that carry a tag. -/
def support (s : Snapshot) (tag : Int) : Nat := ((s.holders tag).map SlotTable.size).getD 0

/-- The tags of an item; none for an unknown item. -/
def tagsOf (s : Snapshot) (item : Int) : List Int := (s.itemTable.get? item (hashId item)).getD []

/-- Whether the first (tag, support) entry ranks before the second: larger support first, then
smaller tag id. -/
def rankLE (a b : Int × Nat) : Bool := a.2 > b.2 || (a.2 == b.2 && a.1 ≤ b.1)

/-- Every tag with its support, by support descending and then tag id ascending. -/
def supportRanking (s : Snapshot) : List (Int × Nat) :=
  (s.tagTable.walk.map fun e => (e.1, e.2.size)).mergeSort rankLE

/-- The items in ascending id, each with its tags. -/
def itemTags (s : Snapshot) : List (Int × List Int) :=
  (s.itemTable.keys.mergeSort (· ≤ ·)).map fun i => (i, s.tagsOf i)

end Snapshot

end TagAtlas
