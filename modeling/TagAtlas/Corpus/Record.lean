/-! The records of a tagged corpus: tag applications, the tag catalogue and item metadata.
An application counts toward an item's tag set unless it is negative, or a legacy row that
neither a contributor nor a prediction stands behind. -/
namespace TagAtlas

/-- One application of a tag to an item. -/
structure Application where
  item : Int
  tag : Int
  contributor : Option Int := none
  negative : Bool := false
  predicted : Bool := false
  deriving Repr, BEq, DecidableEq

namespace Application

/-- A row that a contributor applied. -/
def byContributor (item tag contributor : Int) : Application :=
  { item, tag, contributor := some contributor }

/-- A row that a model predicted. -/
def prediction (item tag : Int) : Application :=
  { item, tag, predicted := true }

/-- Whether the row puts the tag into the item's tag set. -/
def counts (a : Application) : Bool :=
  !a.negative && !(a.contributor.isNone && !a.predicted)

@[simp] theorem counts_prediction (item tag : Int) : (prediction item tag).counts = true := rfl

theorem counts_eq_false_of_negative {a : Application} (h : a.negative = true) :
    a.counts = false := by
  simp [counts, h]

end Application

/-- A tag of the catalogue. -/
structure TagRecord where
  id : Int
  name : String
  namespace_ : String
  deriving Repr, BEq

/-- The metadata of an item: its status and the free-text attribution of its makers. -/
structure ItemRecord where
  id : Int
  status : String
  attribution : String := ""
  deriving Repr, BEq

/-- A dump of a corpus: applications in their order, and the two catalogues. -/
structure Dataset where
  applications : List Application := []
  tags : List TagRecord := []
  items : List ItemRecord := []
  deriving Repr

end TagAtlas
