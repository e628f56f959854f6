import TagAtlas.Text.Blank
import TagAtlas.Text.Lower
/-! What a query looks at: the namespace (game mode) of the tags, the bucket of item statuses
and the view that shapes the sectors. Each is read leniently from text: blanks around it and
letter case do not matter, and an unknown value falls back to the default. -/
namespace TagAtlas

/-- The namespace of tags, one per game mode. -/
inductive Namespace
  | osu
  | taiko
  | fruits
  | mania
  deriving DecidableEq, Repr, Inhabited

namespace Namespace

/-- The canonical name. -/
def name : Namespace → String
  | osu => "osu"
  | taiko => "taiko"
  | fruits => "fruits"
  | mania => "mania"

/-- Read a namespace from its name or an alias, with the default for anything else. -/
def normalize (raw : String) : Namespace :=
  match Text.lowercase (Text.trim raw) with
  | "taiko" | "1" => taiko
  | "fruits" | "catch" | "ctb" | "2" => fruits
  | "mania" | "3" => mania
  | _ => osu

end Namespace

/-- The bucket of item statuses a query admits. -/
inductive StatusFilter
  | ranked
  | unranked
  | all
  deriving DecidableEq, Repr, Inhabited

namespace StatusFilter

/-- Read a bucket; anything but "unranked" and "all" is the ranked bucket. -/
def parse (raw : Option String) : StatusFilter :=
  match raw.map (fun v => Text.lowercase (Text.trim v)) with
  | some "unranked" => unranked
  | some "all" => all
  | _ => ranked

/-- The statuses in the bucket; `none` admits every status. -/
def statuses : StatusFilter → Option (List String)
  | ranked => some ["Ranked", "Approved"]
  | unranked => some ["Graveyard", "WIP", "Pending", "Qualified", "Loved"]
  | all => none

/-- Whether the bucket admits a status, compared exactly. -/
def admits (f : StatusFilter) (status : String) : Bool :=
  match f.statuses with
  | some allowed => allowed.contains status
  | none => true

/-- The canonical name. -/
def name : StatusFilter → String
  | ranked => "ranked"
  | unranked => "unranked"
  | all => "all"

end StatusFilter

/-- How sectors are formed. -/
inductive ViewMode
  /-- Items split among mutual-neighbour components, each item in one sector. -/
  | tagsets
  /-- One sector per tag, items may repeat. -/
  | single
  /-- Overlapping sectors from macro cores and triads. -/
  | overlap
  /-- One sector from explicit include and exclude tags. -/
  | custom
  deriving DecidableEq, Repr, Inhabited

namespace ViewMode

/-- Read a view; anything unknown is the tagsets view. -/
def parse (raw : Option String) : ViewMode :=
  match raw.map (fun v => Text.lowercase (Text.trim v)) with
  | some "single" => single
  | some "overlap" => overlap
  | some "custom" => custom
  | _ => tagsets

/-- The canonical name. -/
def name : ViewMode → String
  | tagsets => "tagsets"
  | single => "single"
  | overlap => "overlap"
  | custom => "custom"

end ViewMode

end TagAtlas
