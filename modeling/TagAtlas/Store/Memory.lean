import Std.Data.TreeMap
import TagAtlas.Corpus.Record
import TagAtlas.Query.Scope
import TagAtlas.Table.Slots
/-! The corpus store held in memory. Tags and items are indexed by id, a later record
replacing an earlier one with the same id. The tag index is a hashed table made for all the
tag records, and looking tags up by name walks it in slot order. The store answers the five
reads a query needs: a liveness ping, the applications of a namespace and status bucket, tag
names, tag ids by lowercased name, and trimmed item attributions. -/
namespace TagAtlas

/-- A dataset indexed for reading. -/
structure MemoryStore where
  applications : List Application
  tags : Std.TreeMap Int TagRecord compare
  items : Std.TreeMap Int ItemRecord compare
  /-- The tag ids in the order a walk over the tag index meets them. -/
  tagWalk : List Int

namespace MemoryStore

/-- Index a dataset; for a repeated id the last record stands. -/
def ofDataset (d : Dataset) : MemoryStore where
  applications := d.applications
  tags := d.tags.foldl (fun m t => m.insert t.id t) ∅
  items := d.items.foldl (fun m i => m.insert i.id i) ∅
  tagWalk := walkOrder hashId (d.tags.map (·.id))

/-- Whether a row belongs to a namespace and status bucket: it counts, its tag is in the
namespace, and unless every status is admitted its item has an admitted status. -/
def admits (s : MemoryStore) (ns : Namespace) (filter : StatusFilter) (row : Application) : Bool :=
  row.counts &&
    (match s.tags.get? row.tag with
     | some tag => Namespace.normalize tag.namespace_ == ns
     | none => false) &&
    (match filter with
     | .all => true
     | _ =>
       match s.items.get? row.item with
       | some item => filter.admits item.status
       | none => false)

/-- The admitted rows, in dataset order. -/
def loadApplications (s : MemoryStore) (ns : Namespace) (filter : StatusFilter) : List Application :=
  s.applications.filter (s.admits ns filter)

/-- The names of the known tags among some ids, in the order asked. -/
def tagNames (s : MemoryStore) (ids : List Int) : List (Int × String) :=
  ids.filterMap fun id => (s.tags.get? id).map fun t => (id, t.name)

/-- The ids of the tags of a namespace whose lowercased names are asked for, by name; of two
tags with one lowercased name the one the walk over the tag index meets last stands. -/
def resolveTagIds (s : MemoryStore) (ns : Namespace) (names : List String) : List (String × Int) :=
  let found := (s.tagWalk.filterMap s.tags.get?).filterMap fun t =>
    let lowered := Text.lowercase t.name
    if Namespace.normalize t.namespace_ == ns && names.contains lowered then some (lowered, t.id)
    else none
  (found.foldl (fun (m : Std.TreeMap String Int compare) (k, v) => m.insert k v) ∅).toList

/-- The trimmed attributions of the known items among some ids, in the order asked. -/
def itemAttributions (s : MemoryStore) (ids : List Int) : List (Int × String) :=
  ids.filterMap fun id => (s.items.get? id).map fun i => (id, Text.trim i.attribution)

end MemoryStore

end TagAtlas
